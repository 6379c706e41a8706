import Tunnel.Failure

/-!
# A failure in one line

A failure is told with its causes, the nearest first. A cause is passed over if its text occurs in what
has been told before it, and for no other reason, so each cause can be read off the line.
-/
namespace Tunnel

/-- A text occurs in another exactly if it is a piece of it. -/
theorem occursIn_iff {part text : List Char} : occursIn part text = true ↔ part <:+: text := by
  induction text with
  | nil => rw [occursIn, List.isEmpty_iff, List.infix_nil]
  | cons c cs ih =>
    rw [occursIn, Bool.or_eq_true, List.isPrefixOf_iff_prefix, ih, List.infix_cons_iff]

namespace Failure

def line (text : String) (marked : List (String × Bool)) : String :=
  ": ".intercalate (text :: (marked.filter Prod.snd).map Prod.fst)

/-- The marks of causes that are told after a text: each cause is unmarked exactly if it occurs in what
the causes before it have come to. -/
def Marked (text : String) (marked : List (String × Bool)) : Prop :=
  ∀ before cause told after, marked = before ++ (cause, told) :: after →
    (told = false ↔ cause.toList <:+: (line text before).toList)

variable {text cause : String} {marked : List (String × Bool)}

theorem line_nil (text : String) : line text [] = text := String.intercalate_singleton

theorem line_told (text cause : String) (marked : List (String × Bool)) :
    line text ((cause, true) :: marked) = line (text ++ ": " ++ cause) marked := by
  rw [line, List.filter_cons_of_pos rfl, List.map_cons, String.intercalate_cons_cons, line,
    String.intercalate_cons_append]

theorem line_passed (text cause : String) (marked : List (String × Bool)) :
    line text ((cause, false) :: marked) = line text marked := by
  rw [line, List.filter_cons_of_neg (by simp), line]

/-- A cause is added by telling it, or it is passed over where it occurs already. -/
theorem addCause_cases (text cause : String) :
    cause.toList <:+: text.toList ∧ addCause text cause = text ∨
      ¬ cause.toList <:+: text.toList ∧ addCause text cause = text ++ ": " ++ cause := by
  by_cases h : occursIn cause.toList text.toList = true
  · exact .inl ⟨occursIn_iff.1 h, if_pos h⟩
  · exact .inr ⟨fun hoccurs => h (occursIn_iff.2 hoccurs), if_neg h⟩

theorem prefix_addCause (text cause : String) :
    text.toList <+: (addCause text cause).toList := by
  rcases addCause_cases text cause with ⟨-, hadd⟩ | ⟨-, hadd⟩
  · exact ⟨[], by rw [hadd, List.append_nil]⟩
  · rw [hadd, String.append_assoc, String.toList_append]
    exact List.prefix_append _ _

theorem infix_addCause (text cause : String) :
    cause.toList <:+: (addCause text cause).toList := by
  rcases addCause_cases text cause with ⟨hoccurs, hadd⟩ | ⟨-, hadd⟩
  · rwa [hadd]
  · rw [hadd, String.toList_append]
    exact (List.suffix_append _ _).isInfix

/-- The cause that is marked first has its part in the line already. -/
theorem line_cons {told : Bool} (htold : told = false ↔ cause.toList <:+: text.toList)
    (marked : List (String × Bool)) :
    line text ((cause, told) :: marked) = line (addCause text cause) marked := by
  rcases addCause_cases text cause with ⟨hoccurs, hadd⟩ | ⟨hoccurs, hadd⟩
  · rw [htold.2 hoccurs, hadd, line_passed]
  · rw [eq_true_of_ne_false (mt htold.1 hoccurs), hadd, line_told]

theorem Marked.cons {told : Bool} (htold : told = false ↔ cause.toList <:+: text.toList)
    (h : Marked (addCause text cause) marked) : Marked text ((cause, told) :: marked) := by
  intro before other toldOther after heq
  cases before with
  | nil =>
    obtain ⟨⟨⟩, -⟩ := List.cons.inj heq
    rwa [line_nil]
  | cons m before =>
    obtain ⟨rfl, hrest⟩ := List.cons.inj heq
    rw [line_cons htold]
    exact h before other toldOther after hrest

theorem prefix_foldl_addCause (text : String) (causes : List String) :
    text.toList <+: (causes.foldl addCause text).toList := by
  induction causes generalizing text with
  | nil => exact List.prefix_refl _
  | cons cause causes ih => exact (prefix_addCause text cause).trans (ih (addCause text cause))

/-- A cause can be read off the line from where it has been added. -/
theorem infix_foldl_addCause (text : String) (causes : List String) :
    ∀ cause ∈ causes, cause.toList <:+: (causes.foldl addCause text).toList := by
  induction causes generalizing text with
  | nil => nofun
  | cons first causes ih =>
    intro cause hcause
    rcases List.mem_cons.1 hcause with rfl | hlater
    · exact (infix_addCause text cause).trans
        (prefix_foldl_addCause (addCause text cause) causes).isInfix
    · exact ih (addCause text first) cause hlater

theorem exists_marked (text : String) (causes : List String) :
    ∃ marked, marked.map Prod.fst = causes ∧ causes.foldl addCause text = line text marked ∧
      Marked text marked := by
  induction causes generalizing text with
  | nil => exact ⟨[], rfl, (line_nil text).symm, fun before _ _ _ h => by cases before <;> cases h⟩
  | cons cause causes ih =>
    -- what has been told so far is the text after which the other causes are told
    obtain ⟨marked, hcauses, hline, hmarked⟩ := ih (addCause text cause)
    have htold : (!occursIn cause.toList text.toList) = false ↔ cause.toList <:+: text.toList := by
      rw [Bool.not_eq_false', occursIn_iff]
    refine ⟨(cause, !occursIn cause.toList text.toList) :: marked, ?_, ?_, .cons htold hmarked⟩
    · rw [List.map_cons, hcauses]
    · rw [List.foldl_cons, hline, line_cons htold]

/-- The line of a failure begins with its text, and every cause can be read off it. It is the text and
some of the causes in order, parted by colons; the others are those whose text occurs in what stands
before their turn. -/
theorem describe_causes (f : Failure) :
    f.text.toList <+: f.describe.toList ∧
      (∀ cause ∈ f.causes, cause.toList <:+: f.describe.toList) ∧
      ∃ marked, marked.map Prod.fst = f.causes ∧ f.describe = line f.text marked ∧
        Marked f.text marked :=
  ⟨prefix_foldl_addCause f.text f.causes, infix_foldl_addCause f.text f.causes,
    exists_marked f.text f.causes⟩

/-- A cause that is repeated, one that is a piece of another, and one without a text. -/
example : (Failure.mk "error sending request" ["client error: refused", "error", "", "refused",
      "tcp connect error", "client error"]).describe =
    "error sending request: client error: refused: tcp connect error" := by
  decide

end Failure

end Tunnel
