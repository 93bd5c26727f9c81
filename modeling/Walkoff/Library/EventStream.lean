import Mathlib.Algebra.BigOperators.Group.List.Basic
import Mathlib.Algebra.GroupWithZero.Nat
import Mathlib.Algebra.Order.BigOperators.Group.List

/-!
# The grammar of event streams

A stream of server-sent events is a text of lines: a line is a field, a blank line ends an event,
and a line that has not ended yet counts for nothing. An event without data is dropped. `weight`
bounds what a text can say: the data of its events are no longer than its lines.
-/

set_option autoImplicit false

namespace Walkoff.Library

namespace EventStream

/-! ## Lines -/

/-- The complete lines behind the characters that have been read of the first one. A line ends
with `\n`, `\r` or both; `afterReturn` says that the last character was a `\r`. -/
def linesFrom : Bool → List Char → List Char → List (List Char)
  | _, _, [] => []
  | afterReturn, line, c :: cs =>
    if c = '\n' then
      if afterReturn then linesFrom false line cs else line :: linesFrom false [] cs
    else if c = '\r' then line :: linesFrom true [] cs
    else linesFrom false (line ++ [c]) cs

/-- The complete lines of a text. -/
def lines (cs : List Char) : List (List Char) :=
  linesFrom false [] cs

/-- The character ends a line. -/
def isBreak (c : Char) : Bool :=
  c = '\n' || c = '\r'

/-! ## Events -/

/-- An event that is dispatched. -/
structure Dispatched where
  id : List Char
  event : List Char
  data : List Char
  deriving DecidableEq, Repr

/-- What the lines of an event have set so far, and the last ID. -/
structure Buffers where
  id : List Char
  event : List Char
  data : List Char
  deriving Repr

/-- The name and the value of a field: one blank after the colon is dropped. -/
def field (line : List Char) : List Char × List Char :=
  match line.dropWhile (· ≠ ':') with
  | _ :: ' ' :: value => (line.takeWhile (· ≠ ':'), value)
  | _ :: value => (line.takeWhile (· ≠ ':'), value)
  | [] => (line, [])

/-- A field; a field of another name, and a comment, is ignored. -/
def Buffers.setField (self : Buffers) : List Char × List Char → Buffers
  | (['d', 'a', 't', 'a'], value) => { self with data := self.data ++ (value ++ ['\n']) }
  | (['e', 'v', 'e', 'n', 't'], value) => { self with event := value }
  | (['i', 'd'], value) => if '\x00' ∈ value then self else { self with id := value }
  | _ => self

/-- The buffers after a blank line. -/
def Buffers.reset (self : Buffers) : Buffers :=
  { self with event := [], data := [] }

/-- The event that a blank line dispatches: none without data. -/
def Buffers.dispatched (self : Buffers) : List Dispatched :=
  if self.data = [] then [] else
    [{ id := self.id, event := self.event, data := self.data.dropLast }]

/-- The events of some lines. -/
def eventsFrom : Buffers → List (List Char) → List Dispatched
  | _, [] => []
  | buffers, line :: rest =>
    if line = [] then buffers.dispatched ++ eventsFrom buffers.reset rest
    else eventsFrom (buffers.setField (field line)) rest

/-- The buffers after some lines. -/
def buffersAfter : Buffers → List (List Char) → Buffers
  | buffers, [] => buffers
  | buffers, line :: rest =>
    buffersAfter (if line = [] then buffers.reset else buffers.setField (field line)) rest

/-- The buffers at the start. -/
def Buffers.empty : Buffers :=
  { id := [], event := [], data := [] }

/-- The events of a stream. -/
def parse (cs : List Char) : List Dispatched :=
  eventsFrom .empty (lines cs)

/-! ## Lines of a text -/

/-- A line without breaks is read to its end. -/
theorem linesFrom_plain {line : List Char} (h : ∀ c ∈ line, isBreak c = false) {c : Char}
    (hc : isBreak c = true) (read rest : List Char) :
    linesFrom false read (line ++ c :: rest) =
      (read ++ line) :: linesFrom (c = '\r') [] rest := by
  induction line generalizing read with
  | nil =>
    rw [isBreak, Bool.or_eq_true, decide_eq_true_eq, decide_eq_true_eq] at hc
    rcases hc with rfl | rfl
    · simp [linesFrom]
    · simp [linesFrom]
  | cons d line ih =>
    obtain ⟨hd, hline⟩ := List.forall_mem_cons.mp h
    obtain ⟨hnewline, hreturn⟩ : d ≠ '\n' ∧ d ≠ '\r' := by
      simpa [isBreak] using hd
    rw [List.cons_append, linesFrom, if_neg hnewline, if_neg hreturn, ih hline, List.append_assoc,
      List.singleton_append]

/-- A line without breaks ends at its newline. -/
theorem lines_plain {line : List Char} (h : ∀ c ∈ line, isBreak c = false) (rest : List Char) :
    lines (line ++ '\n' :: rest) = line :: lines rest :=
  linesFrom_plain h (by decide) [] rest

/-- The lines of a text that ends with a break do not depend on what follows. -/
theorem linesFrom_append (afterReturn : Bool) (read cs rest : List Char)
    (hread : afterReturn = true → read = []) :
    linesFrom afterReturn read (cs ++ '\n' :: rest) =
      linesFrom afterReturn read (cs ++ ['\n']) ++ lines rest := by
  induction cs generalizing afterReturn read with
  | nil =>
    cases afterReturn with
    | true =>
      rw [hread rfl]
      simp [linesFrom, lines]
    | false => simp [linesFrom, lines]
  | cons c cs ih =>
    rw [List.cons_append, List.cons_append, linesFrom, linesFrom]
    split_ifs with hnewline hafter hreturn
    · exact ih false read nofun
    · rw [ih false [] nofun, List.cons_append]
    · rw [ih true [] fun _ => rfl, List.cons_append]
    · exact ih false _ nofun

/-- What ends with a newline has its own lines. -/
theorem lines_append (cs rest : List Char) :
    lines (cs ++ '\n' :: rest) = lines (cs ++ ['\n']) ++ lines rest :=
  linesFrom_append false [] cs rest nofun

/-- A text that ends with a break consists of its lines and its breaks. -/
theorem length_linesFrom (afterReturn : Bool) (read cs : List Char)
    (hread : afterReturn = true → read = []) :
    ((linesFrom afterReturn read (cs ++ ['\n'])).map List.length).sum =
      read.length + cs.countP (!isBreak ·) := by
  induction cs generalizing afterReturn read with
  | nil =>
    cases afterReturn with
    | true =>
      rw [hread rfl]
      simp [linesFrom]
    | false => simp [linesFrom]
  | cons c cs ih =>
    rw [List.cons_append, linesFrom, List.countP_cons]
    split_ifs with hnewline hafter hcounts hcounts hreturn hcounts hcounts
    · simp [isBreak, hnewline] at hcounts
    · rw [ih false read nofun, add_zero]
    · simp [isBreak, hnewline] at hcounts
    · rw [List.map_cons, List.sum_cons, ih false [] nofun, List.length_nil, zero_add, add_zero]
    · simp [isBreak, hreturn] at hcounts
    · rw [List.map_cons, List.sum_cons, ih true [] fun _ => rfl, List.length_nil, zero_add,
        add_zero]
    · rw [ih false _ nofun, List.length_append, List.length_singleton]
      omega
    · simp [isBreak, hnewline, hreturn] at hcounts

/-- Some lines, each with its end. -/
def ended (ls : List (List Char)) : List Char :=
  ls.flatMap (· ++ ['\n'])

/-- Lines without breaks are read as they are. -/
theorem lines_ended {ls : List (List Char)} (h : ∀ line ∈ ls, ∀ c ∈ line, isBreak c = false)
    (rest : List Char) : lines (ended ls ++ rest) = ls ++ lines rest := by
  induction ls with
  | nil => rfl
  | cons line ls ih =>
    obtain ⟨hline, hls⟩ := List.forall_mem_cons.mp h
    have hcons : ended (line :: ls) ++ rest = line ++ '\n' :: (ended ls ++ rest) := by
      simp [ended]
    rw [hcons, lines_plain hline, ih hls]
    rfl

/-! ## Events of some lines -/

/-- Lines are read one after another. -/
theorem eventsFrom_append (buffers : Buffers) (ls rest : List (List Char)) :
    eventsFrom buffers (ls ++ rest) =
      eventsFrom buffers ls ++ eventsFrom (buffersAfter buffers ls) rest := by
  induction ls generalizing buffers with
  | nil => rfl
  | cons line ls ih =>
    rw [List.cons_append, eventsFrom, eventsFrom, buffersAfter]
    split_ifs with hblank
    · rw [ih, List.append_assoc]
    · exact ih _

/-- The same of the buffers. -/
theorem buffersAfter_append (buffers : Buffers) (ls rest : List (List Char)) :
    buffersAfter buffers (ls ++ rest) = buffersAfter (buffersAfter buffers ls) rest := by
  induction ls generalizing buffers with
  | nil => rfl
  | cons line ls ih => exact ih _

/-- A field is its name and its value. -/
theorem field_of_name {name : List Char} (hname : ':' ∉ name) (value : List Char) :
    field (name ++ ':' :: ' ' :: value) = (name, value) := by
  have hne : ∀ c ∈ name, decide (c ≠ ':') = true := by
    intro c hc
    rw [decide_eq_true_eq]
    rintro rfl
    exact hname hc
  have hdrop : (name ++ ':' :: ' ' :: value).dropWhile (· ≠ ':') = ':' :: ' ' :: value := by
    rw [List.dropWhile_append_of_pos hne]
    rfl
  have htake : (name ++ ':' :: ' ' :: value).takeWhile (· ≠ ':') = name := by
    rw [List.takeWhile_append_of_pos hne]
    simp
  unfold field
  rw [hdrop, htake]
  rfl

/-- A line with a name and a value. -/
theorem eventsFrom_field {name : List Char} (hname : ':' ∉ name) (value : List Char)
    (buffers : Buffers) (rest : List (List Char)) :
    eventsFrom buffers ((name ++ ':' :: ' ' :: value) :: rest) =
      eventsFrom (buffers.setField (name, value)) rest := by
  rw [eventsFrom, if_neg (List.append_ne_nil_of_right_ne_nil _ (List.cons_ne_nil _ _)),
    field_of_name hname]

/-- Nothing has been set since the last event. -/
def Buffers.Fresh (self : Buffers) : Prop :=
  self.event = [] ∧ self.data = []

/-- A blank line leaves nothing behind. -/
theorem fresh_after (buffers : Buffers) (ls : List (List Char)) :
    (buffersAfter buffers (ls ++ [[]])).Fresh := by
  rw [buffersAfter_append]
  exact ⟨rfl, rfl⟩

/-! ## How much a text can say -/

/-- What a line can add to the data of an event. -/
def contribution (line : List Char) : ℕ :=
  if (field line).1 = ['d', 'a', 't', 'a'] then (field line).2.length + 1 else 0

/-- The lengths of the data of some events, with one more for each. -/
def weight (events : List Dispatched) : ℕ :=
  (events.map fun e => e.data.length + 1).sum

/-- Events weigh what their parts do. -/
theorem weight_append (events rest : List Dispatched) :
    weight (events ++ rest) = weight events + weight rest := by
  unfold weight
  rw [List.map_append, List.sum_append]

/-- A field has no more characters than its line. -/
theorem field_length (line : List Char) :
    (field line).1.length + (field line).2.length ≤ line.length := by
  have hsplit := congrArg List.length
    (List.takeWhile_append_dropWhile (p := (· ≠ ':')) (l := line))
  rw [List.length_append] at hsplit
  unfold field
  split
  · rename_i h
    rw [h, List.length_cons, List.length_cons] at hsplit
    dsimp only
    omega
  · rename_i h
    rw [h, List.length_cons] at hsplit
    dsimp only
    omega
  · exact le_rfl

/-- A line adds to the data what it contributes. -/
theorem length_setField (buffers : Buffers) (line : List Char) :
    (buffers.setField (field line)).data.length = buffers.data.length + contribution line := by
  unfold contribution
  generalize field line = named
  obtain ⟨name, value⟩ := named
  unfold Buffers.setField
  split
  · rename_i h
    cases h
    simp
  · rename_i h
    cases h
    simp
  · rename_i h
    cases h
    by_cases hzero : '\x00' ∈ value
    · simp [hzero]
    · simp [hzero]
  · rename_i hdata _ _
    have hname : name ≠ ['d', 'a', 't', 'a'] := by
      rintro rfl
      exact hdata value rfl
    simp [hname]

/-- What is dispatched weighs what the data is long. -/
theorem weight_dispatched (buffers : Buffers) :
    weight buffers.dispatched = buffers.data.length := by
  unfold Buffers.dispatched weight
  split_ifs with h
  · rw [h]
    rfl
  · have hpos := List.length_pos_iff.mpr h
    simp
    omega

/-- The data of the events are no longer than what the lines contribute. -/
theorem weight_eventsFrom (buffers : Buffers) (ls : List (List Char)) :
    weight (eventsFrom buffers ls) ≤ buffers.data.length + (ls.map contribution).sum := by
  induction ls generalizing buffers with
  | nil => exact Nat.zero_le _
  | cons line ls ih =>
    rw [eventsFrom, List.map_cons, List.sum_cons]
    split_ifs with hblank
    · have hreset : buffers.reset.data.length = 0 := rfl
      have hrest := ih buffers.reset
      rw [weight_append, weight_dispatched]
      omega
    · have hrest := ih (buffers.setField (field line))
      rw [length_setField] at hrest
      omega

/-- A line contributes no more than its length. -/
theorem contribution_le (line : List Char) : contribution line ≤ line.length := by
  have hlength := field_length line
  unfold contribution
  split_ifs with h
  · rw [h] at hlength
    simp only [List.length_cons, List.length_nil] at hlength
    omega
  · exact Nat.zero_le _

end EventStream

end Walkoff.Library
