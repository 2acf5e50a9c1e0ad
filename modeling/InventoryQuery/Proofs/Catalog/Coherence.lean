import InventoryQuery.Catalog.Hosts
import InventoryQuery.Proofs.Catalog.Resolve

/-!
# Coherent catalogs

Conditions find their values by column names.  In a coherent catalog that goes well: stored fields
with the same column are read in the same way, and no field has the column of a text's length.
-/

namespace InventoryQuery

namespace Field

@[simp]
theorem column_lengthField (f : Field) : f.lengthField.column = f.lengthColumn.name := rfl

@[simp]
theorem isComputed_lengthField (f : Field) : f.lengthField.isComputed = false := rfl

theorem isComputed_of_mem_shownField? {f g : Field} (h : f.shownField? = some g) :
    g.isComputed = false := by
  unfold shownField? at h
  split at h
  · next hcomputation _ =>
    cases h
    simp [isComputed, hcomputation]
  · cases h

end Field

/-- The names of length columns tell the columns apart. -/
theorem Field.column_eq_of_name_lengthColumn_eq {f g : Field}
    (h : f.lengthColumn.name = g.lengthColumn.name) : f.column = g.column := by
  have hlist := congrArg String.toList h
  simp only [lengthColumn, String.toList_append] at hlist
  exact String.toList_inj.1 (List.append_cancel_right (List.append_cancel_right hlist))

namespace Catalog

/-- The fields that are not computed. -/
def storedFields (c : Catalog) : List Field := c.allFields.filter fun f ↦ !f.isComputed

/-- The fields whose own columns conditions read: the stored ones, and what is shown for them. -/
def comparedFields (c : Catalog) : List Field :=
  c.storedFields ++ c.storedFields.filterMap (·.shownField?)

structure Coherent (c : Catalog) : Prop where
  alike : ∀ f ∈ c.comparedFields, ∀ g ∈ c.comparedFields, f.column = g.column →
    f.path = g.path ∧ f.key = g.key ∧ f.kind = g.kind
  apart : ∀ f ∈ c.comparedFields, ∀ g ∈ c.storedFields, f.column ≠ g.lengthColumn.name

theorem mem_storedFields {c : Catalog} {token : String} {f : Field}
    (h : c.resolve? token = some f) (hstored : f.isComputed = false) : f ∈ c.storedFields :=
  List.mem_filter.2 ⟨mem_allFields_of_resolve? h, by simp [hstored]⟩

theorem isComputed_of_mem_storedFields {c : Catalog} {f : Field} (h : f ∈ c.storedFields) :
    f.isComputed = false := by
  simpa using (List.mem_filter.1 h).2

theorem mem_comparedFields {c : Catalog} {f : Field} (h : f ∈ c.storedFields) :
    f ∈ c.comparedFields := List.mem_append_left _ h

/-- Whatever is shown for a stored field is compared like it. -/
theorem shown_mem_comparedFields {c : Catalog} {f : Field} (h : f ∈ c.storedFields) :
    f.shownField?.getD f ∈ c.comparedFields := by
  cases hshown : f.shownField? with
  | none => exact mem_comparedFields h
  | some g => exact List.mem_append_right _ (List.mem_filterMap.2 ⟨f, h, hshown⟩)

theorem isComputed_of_mem_comparedFields {c : Catalog} {f : Field} (h : f ∈ c.comparedFields) :
    f.isComputed = false := by
  rcases List.mem_append.1 h with h | h
  · exact isComputed_of_mem_storedFields h
  · obtain ⟨g, -, hshown⟩ := List.mem_filterMap.1 h
    exact Field.isComputed_of_mem_shownField? hshown

set_option maxRecDepth 20000 in
theorem coherent_hosts : hosts.Coherent where
  alike := by decide
  apart := by decide

end Catalog

end InventoryQuery
