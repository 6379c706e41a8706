import Tunnel.Message.Fields
import Tunnel.Proofs.Json.Value

/-!
# Records from the members of an object

The members of an object are read one after the other, and each field may be read once. What comes of
it depends only on the values that each name has among the members: not on the order of the names, and
not on members that the record does not know.
-/
namespace Tunnel.Field

open Json (Cause bind_eq_ok map_eq_ok)

def valuesOf (name : String) : List (String × Json) → List Json
  | [] => []
  | m :: ms => if m.1 = name then m.2 :: valuesOf name ms else valuesOf name ms

/-- One member of an object has the name, and of its value `P` holds. -/
def Has (name : String) (P : Json → Prop) (ms : List (String × Json)) : Prop :=
  ∃ v, valuesOf name ms = [v] ∧ P v

/-- No member of an object has the name and `absent` holds, or one has it and of its value `P` holds. -/
def MayHave (name : String) (absent : Prop) (P : Json → Prop) (ms : List (String × Json)) : Prop :=
  valuesOf name ms = [] ∧ absent ∨ Has name P ms

theorem Has.of_eq {name : String} {P : Json → Prop} {ms ms' : List (String × Json)}
    (h : valuesOf name ms = valuesOf name ms') (hm : Has name P ms) : Has name P ms' := by
  unfold Has at hm ⊢
  rwa [← h]

theorem MayHave.of_eq {name : String} {absent : Prop} {P : Json → Prop}
    {ms ms' : List (String × Json)} (h : valuesOf name ms = valuesOf name ms')
    (hm : MayHave name absent P ms) : MayHave name absent P ms' := by
  unfold MayHave Has at hm ⊢
  rwa [← h]

theorem text_eq_ok {v : Json} {s : String} : text v = .ok s ↔ v = .text s := by
  cases v <;> simp [text]

theorem optionalText_eq_ok {v : Json} {o : Option String} :
    optionalText v = .ok o ↔ v = .null ∧ o = none ∨ ∃ s, v = .text s ∧ o = some s := by
  cases v with
  | null => simp [optionalText, eq_comm]
  | text s =>
    simp only [optionalText, map_eq_ok, text_eq_ok]
    simp [eq_comm]
  | _ => simp [optionalText, map_eq_ok, text_eq_ok]

theorem natural_eq_ok {bound : Nat} {range : String} {v : Json} {n : Nat} :
    natural bound range v = .ok n ↔ n < bound ∧ v = .integer n := by
  cases v with
  | integer i =>
    simp only [natural]
    split
    · simp only [Except.ok.injEq, Json.integer.injEq]
      omega
    · simp only [reduceCtorEq, Json.integer.injEq, false_iff]
      omega
  | _ => simp [natural]

theorem word64_eq_ok {v : Json} {w : UInt64} : word64 v = .ok w ↔ v = .integer w.toNat := by
  simp only [word64, map_eq_ok, natural_eq_ok]
  constructor
  · rintro ⟨n, ⟨hn, rfl⟩, rfl⟩
    rw [UInt64.toNat_ofNat_of_lt' hn]
  · rintro rfl
    exact ⟨w.toNat, ⟨w.toNat_lt_size, rfl⟩, UInt64.ofNat_toNat⟩

theorem word16_eq_ok {v : Json} {w : UInt16} : word16 v = .ok w ↔ v = .integer w.toNat := by
  simp only [word16, map_eq_ok, natural_eq_ok]
  constructor
  · rintro ⟨n, ⟨hn, rfl⟩, rfl⟩
    rw [UInt16.toNat_ofNat_of_lt' hn]
  · rintro rfl
    exact ⟨w.toNat, ⟨w.toNat_lt_size, rfl⟩, UInt16.ofNat_toNat⟩

theorem require_eq_ok {α : Type} {name : String} {o : Option α} {a : α} :
    require name o = .ok a ↔ o = some a := by
  cases o <;> simp [require]

section
variable {α : Type} {read : Json → Except Cause α} {a b : Option α}

/-- A field before and after the values of its name: without any it is as it was, one is read if none
was read before, and more are refused. -/
inductive Slot (read : Json → Except Cause α) : Option α → List Json → Option α → Prop where
  | absent (a : Option α) : Slot read a [] a
  | present {v : Json} {a : α} (hv : read v = .ok a) : Slot read none [v] (some a)

theorem once_eq_ok {name : String} {v : Json} : once name a (read v) = .ok b ↔ Slot read a [v] b := by
  constructor
  · intro h
    cases a with
    | some a => cases h
    | none =>
      obtain ⟨b, hv, rfl⟩ := map_eq_ok.1 h
      exact .present hv
  · rintro (_ | hv)
    exact map_eq_ok.2 ⟨_, hv, rfl⟩

theorem slot_nil : Slot read a [] b ↔ b = a := by
  constructor
  · rintro ⟨⟩
    rfl
  · rintro rfl
    exact .absent b

theorem slot_cons {v : Json} {vs : List Json} :
    Slot read a (v :: vs) b ↔ ∃ o, Slot read a [v] o ∧ Slot read o vs b := by
  constructor
  · rintro (_ | hv)
    exact ⟨_, .present hv, .absent _⟩
  · rintro ⟨o, _ | hv, ⟨⟩⟩
    exact .present hv

variable {name : String} {ms : List (String × Json)} {P : Json → Prop}

/-- A field that must be there. -/
theorem slot_some {a : α} (hP : ∀ v ∈ valuesOf name ms, read v = .ok a ↔ P v) :
    Slot read none (valuesOf name ms) (some a) ↔ Has name P ms := by
  constructor
  · intro h
    unfold Has
    revert hP h
    cases valuesOf name ms with
    | nil =>
      intro hP h
      cases h
    | cons v vs =>
      intro hP h
      obtain ⟨⟩ | hv := h
      exact ⟨v, rfl, (hP v List.mem_cons_self).1 hv⟩
  · rintro ⟨v, hv, hp⟩
    rw [hv] at hP ⊢
    exact .present ((hP v List.mem_cons_self).2 hp)

/-- A field in whose place something else stands if it is not there. -/
theorem exists_slot {absent : Prop} {Q : Option α → Prop} (hnone : Q none ↔ absent)
    (hP : ∀ v ∈ valuesOf name ms, (∃ a, read v = .ok a ∧ Q (some a)) ↔ P v) :
    (∃ o, Slot read none (valuesOf name ms) o ∧ Q o) ↔ MayHave name absent P ms := by
  unfold MayHave Has
  cases hvalues : valuesOf name ms with
  | nil =>
    simp [slot_nil, hnone]
  | cons v vs =>
    rw [hvalues] at hP
    constructor
    · rintro ⟨o, ⟨⟩ | hv, hq⟩
      exact .inr ⟨v, rfl, (hP v List.mem_cons_self).1 ⟨_, hv, hq⟩⟩
    · rintro (⟨hnil, -⟩ | ⟨w, hw, hp⟩)
      · cases hnil
      · obtain ⟨rfl, rfl⟩ := List.cons.inj hw
        obtain ⟨a, ha, hq⟩ := (hP v List.mem_cons_self).2 hp
        exact ⟨some a, .present ha, hq⟩

end

section
variable {name : String} {ms : List (String × Json)}

theorem slot_text {s : String} :
    Slot text none (valuesOf name ms) (some s) ↔ Has name (· = .text s) ms :=
  slot_some fun _ _ => text_eq_ok

theorem slot_word64 {w : UInt64} :
    Slot word64 none (valuesOf name ms) (some w) ↔ Has name (· = .integer w.toNat) ms :=
  slot_some fun _ _ => word64_eq_ok

theorem slot_word16 {w : UInt16} :
    Slot word16 none (valuesOf name ms) (some w) ↔ Has name (· = .integer w.toNat) ms :=
  slot_some fun _ _ => word16_eq_ok

end

/-- The fields of a record whose members are read by `step`: what each is named, how its value is read,
where it is kept, and whether it is known. -/
structure Layout (σ : Type) (step : σ → String → Json → Except Cause σ) where
  Part : Type
  Value : Part → Type
  name : Part → String
  read : (f : Part) → Json → Except Cause (Value f)
  knows : Part → Bool
  get : σ → (f : Part) → Option (Value f)
  put : σ → (f : Part) → Option (Value f) → σ
  name_inj : ∀ f g, name f = name g → f = g
  get_put : ∀ s f a, get (put s f a) f = a
  get_put_ne : ∀ s f a g, g ≠ f → get (put s f a) g = get s g
  ext : ∀ s s', (∀ f, get s f = get s' f) → s = s'
  step_known : ∀ s f v, knows f = true →
    step s (name f) v = put s f <$> once (name f) (get s f) (read f v)
  step_unknown : ∀ s other v, (∀ f, knows f = true → name f ≠ other) → step s other v = .ok s

namespace Layout

variable {σ : Type} {step : σ → String → Json → Except Cause σ} (l : Layout σ step)

def values (f : l.Part) (ms : List (String × Json)) : List Json :=
  if l.knows f then valuesOf (l.name f) ms else []

theorem values_self {f : l.Part} (hf : l.knows f = true) (v : Json) (ms : List (String × Json)) :
    l.values f ((l.name f, v) :: ms) = v :: l.values f ms := by
  simp [values, hf, valuesOf]

theorem values_ne {f : l.Part} {other : String} (hne : l.knows f = true → l.name f ≠ other) (v : Json)
    (ms : List (String × Json)) : l.values f ((other, v) :: ms) = l.values f ms := by
  cases hf : l.knows f with
  | false => simp [values, hf]
  | true => simp [values, hf, valuesOf, Ne.symm (hne hf)]

/-- Members are read to the end exactly if every field takes the values of its name. -/
theorem ofMembers_eq_ok {s s' : σ} {ms : List (String × Json)} :
    ofMembers step s ms = .ok s' ↔
      ∀ f, Slot (l.read f) (l.get s f) (l.values f ms) (l.get s' f) := by
  induction ms generalizing s with
  | nil =>
    have hnil : ∀ f, l.values f [] = [] := fun f => by simp [values, valuesOf]
    simp only [ofMembers, hnil, slot_nil, Except.ok.injEq]
    exact ⟨fun h _ => h ▸ rfl, fun h => (l.ext s' s h).symm⟩
  | cons m ms ih =>
    obtain ⟨name, v⟩ := m
    rw [ofMembers, bind_eq_ok]
    by_cases hname : ∃ f, l.knows f = true ∧ l.name f = name
    · obtain ⟨f, hf, rfl⟩ := hname
      rw [l.step_known s f v hf]
      constructor
      · rintro ⟨_, hstep, hms⟩ g
        obtain ⟨o, ho, rfl⟩ := map_eq_ok.1 hstep
        have hg := ih.1 hms g
        by_cases hgf : g = f
        · subst hgf
          rw [l.get_put] at hg
          rw [l.values_self hf]
          exact slot_cons.2 ⟨o, once_eq_ok.1 ho, hg⟩
        · rw [l.get_put_ne s f o g hgf] at hg
          rwa [l.values_ne fun _ h => hgf (l.name_inj g f h)]
      · intro h
        have hf' := h f
        rw [l.values_self hf] at hf'
        obtain ⟨o, hread, hrest⟩ := slot_cons.1 hf'
        refine ⟨_, map_eq_ok.2 ⟨o, once_eq_ok.2 hread, rfl⟩, ih.2 fun g => ?_⟩
        by_cases hgf : g = f
        · subst hgf
          rwa [l.get_put]
        · rw [l.get_put_ne s f o g hgf, ← l.values_ne (fun _ h => hgf (l.name_inj g f h)) v ms]
          exact h g
    · have hne : ∀ f, l.knows f = true → l.name f ≠ name := fun f hf h => hname ⟨f, hf, h⟩
      simp only [l.step_unknown s name v hne, Except.ok.injEq, exists_eq_left', ih,
        l.values_ne (hne _)]

end Layout

end Tunnel.Field
