import InventoryQuery.Proofs.Success
import InventoryQuery.Shell.Prompt
import Mathlib

/-!
# A prompt and its file

A prompt reads its file when it is opened and whenever it is told to, and at no other time.  What it
answers comes from the last document that could be read then, in the format that was chosen last,
whatever becomes of the file in between and whatever fails.
-/

namespace InventoryQuery

/-- What can happen while a prompt is open. -/
inductive Event
  | write (bytes : ByteArray)
  | remove
  | enter (input : String)

namespace Event

/-- What the file holds from then on. -/
def file? : Event → Option FileText
  | .write bytes => some (.ofBytes bytes)
  | .remove => some (.error .missing)
  | .enter _ => none

def line? : Event → Option String
  | .enter input => some (Text.trimmed (Typed.line input))
  | _ => none

/-- The name of the command that is given, and what it is given with. -/
def command? (event : Event) : Option (String × Option String) :=
  (event.line?.filter Command.isCommand).map Command.split

def reloads (event : Event) : Bool := event.command?.any (·.1 = ".reload")

def leaves (event : Event) : Bool := event.command?.any (·.1 ∈ [".exit", ".quit", ".q"])

/-- The format that is chosen, if there is one of that name. -/
def format? (event : Event) : Option Format :=
  match event.command? with
  | some (".format", some name) => Format.ofName? (Text.lowercase name)
  | _ => none

/-! ## The last of each -/

def fileAfter (file : FileText) (events : List Event) : FileText :=
  (events.reverse.findSome? file?).getD file

def formatAfter (format : Format) (events : List Event) : Format :=
  (events.reverse.findSome? format?).getD format

/-- The inventory of the last document that could be read, of those that were in the file when the
prompt was opened and when it was told to read the file again. -/
def loadedAfter? (file : FileText) (events : List Event) : Option Inventory :=
  events.inits.reverse.findSome? fun sofar ↦
    if sofar.getLast?.all reloads then (Inventory.ofFile (fileAfter file sofar)).toOption else none

variable {file : FileText} {format : Format} {events : List Event} {event : Event}

theorem file?_of_reloads (h : event.reloads = true) : event.file? = none := by
  cases event with
  | enter input => rfl
  | write bytes => cases h
  | remove => cases h

theorem of_command? {name : String} {argument : Option String}
    (h : event.command? = some (name, argument)) :
    event.file? = none ∧ event.leaves = decide (name ∈ [".exit", ".quit", ".q"]) ∧
      event.reloads = decide (name = ".reload") := by
  cases event with
  | write bytes => cases h
  | remove => cases h
  | enter input => simp [file?, leaves, reloads, h]

theorem fileAfter_concat :
    fileAfter file (events ++ [event]) = event.file?.getD (fileAfter file events) := by
  unfold fileAfter
  rw [List.reverse_concat, List.findSome?_cons]
  cases event.file? with
  | none => rfl
  | some text => rfl

theorem formatAfter_concat :
    formatAfter format (events ++ [event]) = event.format?.getD (formatAfter format events) := by
  unfold formatAfter
  rw [List.reverse_concat, List.findSome?_cons]
  cases event.format? with
  | none => rfl
  | some chosen => rfl

theorem loadedAfter?_nil : loadedAfter? file [] = (Inventory.ofFile file).toOption := by
  unfold loadedAfter?
  simp [fileAfter]

theorem loadedAfter?_concat :
    loadedAfter? file (events ++ [event]) =
      (if event.reloads then (Inventory.ofFile (fileAfter file (events ++ [event]))).toOption
        else none).or (loadedAfter? file events) := by
  have hinits : (events ++ [event]).inits = events.inits ++ [events ++ [event]] := by
    simp only [List.inits_append, List.inits, List.map_cons, List.map_nil, List.tail_cons]
  unfold loadedAfter?
  rw [hinits, List.reverse_concat, List.findSome?_cons, List.getLast?_concat, Option.all_some]
  cases event.reloads with
  | false => rfl
  | true =>
    cases (Inventory.ofFile (fileAfter file (events ++ [event]))).toOption with
    | none => rfl
    | some inventory => rfl

end Event

/-! ## What a line does -/

namespace Command

variable {text name : String} {argument : Option String} {current : Format}

theorem read_reload (h : split text = (".reload", argument)) : read text current = .reload := by
  simp [read, h]

theorem read_format (h : split text = (".format", argument)) :
    read text current =
      argument.elim (.print ("Current format: " ++ current.name)) chooseFormat := by
  simp [read, h]

theorem read_exit (h : split text = (name, argument)) (hname : name ∈ [".exit", ".quit", ".q"]) :
    read text current = .exit := by
  unfold read
  rw [h]
  exact if_pos hname

end Command

namespace Prompt

variable {file : FileText} {p : Prompt}

theorem obey_read_of_other {text name : String} {argument : Option String}
    (h : Command.split text = (name, argument)) (hleaves : name ∉ [".exit", ".quit", ".q"])
    (hformat : name ≠ ".format") (hreload : name ≠ ".reload") :
    (p.obey file (Command.read text p.format)).1 = some p := by
  unfold Command.read
  rw [h]
  simp only [hleaves, hformat, hreload, if_false]
  split_ifs
  · rfl
  · rfl
  · rfl
  · rfl
  · cases argument with
    | none => rfl
    | some query =>
      simp only [Option.elim_some, obey]
      cases p.session.explain query <;> rfl
  · rfl

variable {input query : String}

theorem enter_of_command {command : String × Option String}
    (h : (Event.enter input).command? = some command) :
    ∃ text, Command.split text = command ∧ ∀ (p : Prompt) (file : FileText),
      p.enter file input = p.obey file (Command.read text p.format) := by
  obtain ⟨text, hline, hsplit⟩ := Option.map_eq_some_iff.1 h
  obtain ⟨hline, hcommand⟩ := Option.filter_eq_some_iff.1 hline
  obtain rfl := Option.some.inj hline
  have hany : Text.trimmed (Typed.line input) ≠ "" := by
    intro hempty
    rw [hempty] at hcommand
    cases hcommand
  refine ⟨_, hsplit, fun p file ↦ ?_⟩
  unfold enter
  rw [if_neg hany, if_pos hcommand]

/-- What a line that is no command leaves as it is. -/
theorem enter_fst_of_command?_eq_none (h : (Event.enter input).command? = none) :
    (p.enter file input).1 = some p := by
  have hline : Command.isCommand (Text.trimmed (Typed.line input)) = false := by
    simpa [Event.command?, Event.line?] using h
  simp only [enter, hline, Bool.false_eq_true, if_false]
  split
  · rfl
  · rfl

/-- The format and the inventory are changed by the commands for it, where they succeed, and by
nothing else. -/
theorem enter_fst (p : Prompt) (file : FileText) (input : String) : (p.enter file input).1 =
    if (Event.enter input).leaves then none
    else some { p with
      format := (Event.enter input).format?.getD p.format
      session := if (Event.enter input).reloads then (p.session.reload file).toOption.getD p.session
        else p.session } := by
  cases hcommand : (Event.enter input).command? with
  | none =>
    rw [enter_fst_of_command?_eq_none hcommand]
    simp [Event.leaves, Event.format?, Event.reloads, hcommand]
  | some command =>
    obtain ⟨name, argument⟩ := command
    obtain ⟨text, hsplit, henter⟩ := enter_of_command hcommand
    obtain ⟨-, hleft, hreads⟩ := Event.of_command? hcommand
    rw [henter, hleft, hreads]
    by_cases hleaves : name ∈ [".exit", ".quit", ".q"]
    · rw [Command.read_exit hsplit hleaves, if_pos (decide_eq_true hleaves)]
      rfl
    · rw [if_neg (by simpa using hleaves)]
      by_cases hreload : name = ".reload"
      · subst hreload
        rw [Command.read_reload hsplit]
        simp only [obey, Event.format?, hcommand]
        cases p.session.reload file with
        | error fault => rfl
        | ok session => rfl
      · by_cases hformat : name = ".format"
        · subst hformat
          rw [Command.read_format hsplit]
          cases argument with
          | none => simp [obey, Event.format?, hcommand]
          | some chosen =>
            simp only [Option.elim_some, Command.chooseFormat, Event.format?, hcommand]
            cases Format.ofName? (Text.lowercase chosen) with
            | none => rfl
            | some format => rfl
        · rw [obey_read_of_other hsplit hleaves hformat hreload]
          simp [Event.format?, hcommand, hreload, hformat]

end Prompt

/-! ## Sittings -/

/-- A prompt, and what its file holds. -/
structure Sitting where
  file : FileText
  prompt : Prompt

namespace Sitting

/-- What an event leaves, if it does not leave the prompt, and what is shown for it. -/
def happen (s : Sitting) : Event → Option Sitting × String
  | .write bytes => (some { s with file := .ofBytes bytes }, "")
  | .remove => (some { s with file := .error .missing }, "")
  | .enter input =>
    let (prompt, shown) := s.prompt.enter s.file input
    (prompt.map ({ s with prompt := · }), shown)

/-- What is shown for each event, up to the one that leaves the prompt. -/
def shown (s : Sitting) : List Event → List String
  | [] => []
  | event :: rest =>
    match s.happen event with
    | (none, text) => [text]
    | (some s, text) => text :: s.shown rest

def reach? (s : Sitting) : List Event → Option Sitting
  | [] => some s
  | event :: rest => (s.happen event).1.bind (·.reach? rest)

variable {options : ScopeOptions} {file : FileText} {format : Format} {history : List String}
  {sign : String} {s s' : Sitting} {event : Event} {events before after : List Event}

theorem happen_fst (s : Sitting) (event : Event) : (s.happen event).1 =
    if event.leaves then none
    else some { s with
      file := event.file?.getD s.file
      prompt := { s.prompt with
        format := event.format?.getD s.prompt.format
        session :=
          if event.reloads then (s.prompt.session.reload s.file).toOption.getD s.prompt.session
          else s.prompt.session } } := by
  cases event with
  | write bytes => rfl
  | remove => rfl
  | enter input =>
    simp only [happen, Prompt.enter_fst]
    split
    · rfl
    · rfl

/-- Everything in a sitting is the last of its kind: what was written, what could be read, and what
was chosen. -/
structure Follows (options : ScopeOptions) (file : FileText) (format : Format)
    (history : List String) (sign : String) (events : List Event) (s : Sitting) : Prop where
  written : s.file = Event.fileAfter file events
  loaded : ∃ inventory, Event.loadedAfter? file events = some inventory ∧
    s.prompt = ⟨⟨options, inventory⟩, Event.formatAfter format events, history, sign⟩

theorem follows_nil {session : Session} (h : Session.load options file = .ok session) :
    Follows options file format history sign [] ⟨file, session, format, history, sign⟩ := by
  obtain ⟨inventory, hinventory, rfl⟩ := map_eq_ok_iff.1 h
  refine ⟨rfl, inventory, ?_, rfl⟩
  rw [Event.loadedAfter?_nil, hinventory]
  rfl

theorem Follows.happen (h : s.Follows options file format history sign events)
    (hnext : (s.happen event).1 = some s') :
    s'.Follows options file format history sign (events ++ [event]) := by
  obtain ⟨inventory, hloaded, hprompt⟩ := h.loaded
  rw [happen_fst] at hnext
  split at hnext
  · cases hnext
  · obtain rfl := Option.some.inj hnext
    refine ⟨?_, ?_⟩
    · rw [Event.fileAfter_concat, ← h.written]
    · rw [Event.loadedAfter?_concat, Event.fileAfter_concat, Event.formatAfter_concat, ← h.written,
        hloaded, hprompt]
      cases hreloads : event.reloads with
      | false => exact ⟨inventory, rfl, rfl⟩
      | true =>
        rw [Event.file?_of_reloads hreloads]
        simp only [Session.reload, Option.getD_none, if_true]
        cases Inventory.ofFile s.file with
        | error fault => exact ⟨inventory, rfl, rfl⟩
        | ok loaded => exact ⟨loaded, rfl, rfl⟩

theorem Follows.reach? (h : s.Follows options file format history sign before)
    (hreach : s.reach? events = some s') :
    s'.Follows options file format history sign (before ++ events) := by
  induction events generalizing s before with
  | nil =>
    obtain rfl := Option.some.inj hreach
    rwa [List.append_nil]
  | cons event rest ih =>
    obtain ⟨next, hnext, hrest⟩ := Option.bind_eq_some_iff.1 hreach
    rw [List.append_cons]
    exact ih (h.happen hnext) hrest

/-! ## What is shown -/

/-- Lines alone show what a prompt shows for them, with its sign before each. -/
theorem transcript_eq (p : Prompt) (file : FileText) (inputs : List String) :
    ∃ ending ∈ ["", p.sign ++ Prompt.farewell], p.transcript file inputs =
      ((shown ⟨file, p⟩ (inputs.map .enter)).map (p.sign ++ ·)).foldr (· ++ ·) ending := by
  induction inputs generalizing p with
  | nil => exact ⟨_, List.mem_cons_of_mem _ List.mem_cons_self, rfl⟩
  | cons input rest ih =>
    have hprompt := p.enter_fst file input
    rw [List.map_cons, Prompt.transcript, shown, happen]
    cases henter : p.enter file input with
    | mk next text =>
      rw [henter] at hprompt
      cases next with
      | none => exact ⟨"", List.mem_cons_self, by simp⟩
      | some next =>
        have hsign : next.sign = p.sign := by
          split at hprompt
          · cases hprompt
          · rw [Option.some.inj hprompt]
        obtain ⟨ending, hending, hrest⟩ := ih next
        rw [hsign] at hending hrest
        refine ⟨ending, hending, ?_⟩
        simp [hrest, hsign, String.append_assoc]

end Sitting

/-! ## Later answers -/

namespace Sitting

variable {options : ScopeOptions} {file : FileText} {format : Format} {history : List String}
  {sign : String} {s s' : Sitting} {event : Event} {before after : List Event}

end Sitting

end InventoryQuery
