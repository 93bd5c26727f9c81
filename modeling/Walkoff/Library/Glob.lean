import Mathlib.Data.List.Infix

/-!
# Glob patterns

`*` stands for any text, `?` for any character and a class in brackets for one of its characters;
a backslash takes the next character literally. `matches_prefix`: a text without these characters,
with a `*` behind it, matches what starts with the text.
-/

set_option autoImplicit false

namespace Walkoff.Library

namespace Glob

/-- A part of a pattern. -/
inductive Token where
  | star
  | one (accepts : Char → Bool)

/-- A class that has been read in part. -/
structure CharClass where
  negated : Bool
  accepts : Char → Bool

namespace CharClass

/-- A class without characters. -/
def empty (negated : Bool) : CharClass :=
  { negated, accepts := fun _ => false }

/-- More characters. -/
def add (self : CharClass) (accepts : Char → Bool) : CharClass :=
  { self with accepts := fun c => self.accepts c || accepts c }

/-- The class at its end. -/
def close (self : CharClass) : Token :=
  .one fun c => self.accepts c != self.negated

end CharClass

/-- The characters from one to the other, in either order. -/
def between (a b c : Char) : Bool :=
  (a ≤ c && c ≤ b) || (b ≤ c && c ≤ a)

/-- The parts of a pattern, behind the part of a class that has been read. -/
def tokensFrom : Option CharClass → List Char → List Token
  | none, [] => []
  | none, '*' :: p => .star :: tokensFrom none p
  | none, '?' :: p => .one (fun _ => true) :: tokensFrom none p
  | none, '[' :: '^' :: p => tokensFrom (some (.empty true)) p
  | none, '[' :: p => tokensFrom (some (.empty false)) p
  | none, '\\' :: c :: p => .one (· = c) :: tokensFrom none p
  | none, c :: p => .one (· = c) :: tokensFrom none p
  | some cls, [] => [cls.close]
  | some cls, '\\' :: c :: p => tokensFrom (some (cls.add (· = c))) p
  | some cls, ']' :: p => cls.close :: tokensFrom none p
  | some cls, a :: '-' :: b :: p => tokensFrom (some (cls.add (between a b))) p
  | some cls, c :: p => tokensFrom (some (cls.add (· = c))) p

/-- The text consists of what the parts stand for. -/
def matchTokens : List Token → List Char → Bool
  | [], cs => cs.isEmpty
  | .star :: ts, cs => cs.tails.any (matchTokens ts)
  | .one _ :: _, [] => false
  | .one accepts :: ts, c :: cs => accepts c && matchTokens ts cs

/-- The text matches the pattern. -/
def matchGlob (pattern text : String) : Bool :=
  matchTokens (tokensFrom none pattern.toList) text.toList

/-- The character means something in a pattern. -/
def isSpecial (c : Char) : Bool :=
  c = '*' || c = '?' || c = '[' || c = '\\'

/-- A plain character stands for itself. -/
theorem tokensFrom_plain {c : Char} (h : isSpecial c = false) (p : List Char) :
    tokensFrom none (c :: p) = .one (· = c) :: tokensFrom none p := by
  simp only [isSpecial, Bool.or_eq_false_iff, decide_eq_false_iff_not] at h
  obtain ⟨⟨⟨hstar, hone⟩, hclass⟩, hslash⟩ := h
  rw [tokensFrom.eq_def]
  split
  all_goals first
    | rfl
    | simp_all

/-- A plain text before a star stands for itself. -/
theorem tokensFrom_prefix {text : List Char} (h : ∀ c ∈ text, isSpecial c = false) :
    tokensFrom none (text ++ ['*']) = (text.map fun c => Token.one (· = c)) ++ [.star] := by
  induction text with
  | nil => rfl
  | cons c text ih =>
    obtain ⟨hc, htext⟩ := List.forall_mem_cons.mp h
    rw [List.cons_append, tokensFrom_plain hc, ih htext]
    rfl

/-- A star matches everything. -/
theorem matchTokens_star (cs : List Char) : matchTokens [.star] cs = true := by
  rw [matchTokens, List.any_eq_true]
  exact ⟨[], (List.mem_tails _ _).mpr (List.nil_suffix), rfl⟩

/-- A text before a star matches what it is a prefix of. -/
theorem matchTokens_prefix (text cs : List Char) :
    matchTokens ((text.map fun c => Token.one (· = c)) ++ [.star]) cs = true ↔ text <+: cs := by
  induction text generalizing cs with
  | nil => simp [matchTokens_star]
  | cons c text ih =>
    cases cs with
    | nil => simp [matchTokens]
    | cons d cs =>
      rw [List.map_cons, List.cons_append, matchTokens, Bool.and_eq_true, decide_eq_true_eq,
        ih cs, List.cons_prefix_cons, eq_comm]

/-- **A plain text with a star behind it matches what starts with the text.** -/
theorem matchGlob_prefix {text : List Char} (h : ∀ c ∈ text, isSpecial c = false) (key : String) :
    matchGlob (String.ofList (text ++ ['*'])) key = true ↔ text <+: key.toList := by
  unfold matchGlob
  rw [String.toList_ofList, tokensFrom_prefix h]
  exact matchTokens_prefix text key.toList

end Glob

end Walkoff.Library
