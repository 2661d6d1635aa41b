import Mathlib.Tactic.Common

/-!
# Outcomes

What it means for a computation that can fail to succeed with a result of some sort, to have only
results of some sort, and to agree with another computation unless it fails with some error. The
laws take such statements apart along the steps of the computation.
-/

namespace ScriptOutline

variable {ε α β : Type}

/-- The computation succeeds, and its result has the property. -/
def Yields (r : Except ε α) (P : α → Prop) : Prop := ∃ a, r = .ok a ∧ P a

@[simp] theorem yields_ok {a : α} {P : α → Prop} : Yields (.ok a : Except ε α) P ↔ P a := by
  constructor
  · rintro ⟨b, hb, hP⟩
    cases hb
    exact hP
  · intro hP
    exact ⟨a, rfl, hP⟩

@[simp] theorem yields_pure {a : α} {P : α → Prop} : Yields (pure a : Except ε α) P ↔ P a :=
  yields_ok

@[simp] theorem not_yields_error {e : ε} {P : α → Prop} :
    ¬ Yields (.error e : Except ε α) P := by
  rintro ⟨a, ha, -⟩
  cases ha

@[simp] theorem not_yields_false {r : Except ε α} : ¬ Yields r fun _ => False := by
  rintro ⟨a, -, h⟩
  exact h

@[simp] theorem yields_bind {r : Except ε α} {f : α → Except ε β} {P : β → Prop} :
    Yields (r >>= f) P ↔ Yields r fun a => Yields (f a) P := by
  cases r <;> simp [bind, Except.bind]

@[simp] theorem yields_map {r : Except ε α} {f : α → β} {P : β → Prop} :
    Yields (r.map f) P ↔ Yields r fun a => P (f a) := by
  cases r <;> simp [Except.map]

@[simp] theorem yields_functor_map {r : Except ε α} {f : α → β} {P : β → Prop} :
    Yields (f <$> r) P ↔ Yields r fun a => P (f a) := yields_map

@[simp] theorem yields_and_left {r : Except ε α} {p : Prop} {P : α → Prop} :
    Yields r (fun a => p ∧ P a) ↔ p ∧ Yields r P := by
  cases r <;> simp

@[simp] theorem yields_and_right {r : Except ε α} {p : Prop} {P : α → Prop} :
    Yields r (fun a => P a ∧ p) ↔ Yields r P ∧ p := by
  cases r <;> simp

theorem Yields.mono {r : Except ε α} {P Q : α → Prop} (h : Yields r P) (hPQ : ∀ a, P a → Q a) :
    Yields r Q := by
  obtain ⟨a, ha, hP⟩ := h
  exact ⟨a, ha, hPQ a hP⟩

/-- If the computation succeeds, its result has the property. -/
def Ensures (r : Except ε α) (P : α → Prop) : Prop := ∀ a, r = .ok a → P a

theorem Ensures.pure {a : α} {P : α → Prop} (h : P a) : Ensures (pure a : Except ε α) P := by
  rintro b hb
  cases hb
  exact h

theorem Ensures.error {e : ε} {P : α → Prop} : Ensures (.error e : Except ε α) P := by
  rintro b hb
  cases hb

theorem Ensures.any (r : Except ε α) : Ensures r fun _ => True := fun _ _ => trivial

theorem Ensures.bind {r : Except ε α} {f : α → Except ε β} {Q : α → Prop} {P : β → Prop}
    (h : Ensures r Q) (hf : ∀ a, Q a → Ensures (f a) P) : Ensures (r >>= f) P := by
  cases r with
  | error e => exact .error
  | ok a => exact hf a (h a rfl)

theorem Ensures.map {r : Except ε α} {f : α → β} {P : β → Prop}
    (h : Ensures r fun a => P (f a)) : Ensures (r.map f) P := by
  cases r with
  | error e => exact .error
  | ok a => exact .pure (h a rfl)

theorem Ensures.mono {r : Except ε α} {P Q : α → Prop} (h : Ensures r P) (hPQ : ∀ a, P a → Q a) :
    Ensures r Q :=
  fun a ha => hPQ a (h a ha)

@[simp] theorem ensures_pure_iff {a : α} {P : α → Prop} :
    Ensures (pure a : Except ε α) P ↔ P a :=
  ⟨fun h => h a rfl, .pure⟩

@[simp] theorem ensures_bind_iff {r : Except ε α} {f : α → Except ε β} {P : β → Prop} :
    Ensures (r >>= f) P ↔ Ensures r fun a => Ensures (f a) P := by
  constructor
  · rintro h a rfl
    exact h
  · intro h
    exact h.bind fun a ha => ha

@[simp] theorem ensures_functor_map_iff {r : Except ε α} {f : α → β} {P : β → Prop} :
    Ensures (f <$> r) P ↔ Ensures r fun a => P (f a) := by
  constructor
  · rintro h a rfl
    exact h (f a) rfl
  · exact .map

@[simp] theorem ensures_true {r : Except ε α} : Ensures r fun _ => True := .any r

/-- The computation fails with the error, or succeeds with a result that has the property. -/
def YieldsUnless (e : ε) (r : Except ε α) (P : α → Prop) : Prop := r = .error e ∨ Yields r P

namespace YieldsUnless

variable {e : ε} {r : Except ε α} {P : α → Prop}

theorem pure {a : α} (h : P a) : YieldsUnless e (pure a : Except ε α) P := .inr (yields_pure.2 h)

theorem of_error (P : α → Prop) : YieldsUnless e (.error e) P := .inl rfl

theorem bind {f : α → Except ε β} {Q : β → Prop} (h : YieldsUnless e r P)
    (hf : ∀ a, P a → YieldsUnless e (f a) Q) : YieldsUnless e (r >>= f) Q := by
  rcases h with rfl | ⟨a, rfl, hP⟩
  · exact of_error Q
  · exact hf a hP

theorem mono {Q : α → Prop} (h : YieldsUnless e r P) (hPQ : ∀ a, P a → Q a) :
    YieldsUnless e r Q := by
  rcases h with herror | hyields
  · exact .inl herror
  · exact .inr (hyields.mono hPQ)

end YieldsUnless

/-! ## Two computations -/

/-- The first computation fails with the error, or has the outcome of the second one. -/
def AgreesUnless (e : ε) (r s : Except ε α) : Prop := r = .error e ∨ r = s

namespace AgreesUnless

variable {e : ε} {r s : Except ε α}

theorem refl (r : Except ε α) : AgreesUnless e r r := .inr rfl

theorem of_error (s : Except ε α) : AgreesUnless e (.error e) s := .inl rfl

/-- If both computations agree and so do those that go on from a common result, the whole agrees. -/
theorem bind {f g : α → Except ε β} (h : AgreesUnless e r s)
    (hf : ∀ a, AgreesUnless e (f a) (g a)) : AgreesUnless e (r >>= f) (s >>= g) := by
  rcases h with rfl | rfl
  · exact of_error _
  · cases r with
    | error d => exact refl _
    | ok a => exact hf a

theorem map (f : α → β) (h : AgreesUnless e r s) : AgreesUnless e (r.map f) (s.map f) := by
  rcases h with rfl | rfl
  · exact of_error _
  · exact refl _

end AgreesUnless

/-! ## Lists -/

variable {f g : α → Except ε β} {l : List α}

/-- A list is gone through if each of its elements can be. -/
theorem mapM_ok_iff : (∃ bs, l.mapM f = .ok bs) ↔ ∀ a ∈ l, ∃ b, f a = .ok b := by
  induction l with
  | nil => simp [pure, Except.pure]
  | cons a l ih =>
    rw [List.mapM_cons, List.forall_mem_cons, ← ih]
    constructor
    · rintro ⟨bs, h⟩
      cases ha : f a with
      | error e => simp [ha, Bind.bind, Except.bind] at h
      | ok b =>
        cases hl : l.mapM f with
        | error e => simp [ha, hl, Bind.bind, Except.bind] at h
        | ok cs => exact ⟨⟨b, rfl⟩, cs, rfl⟩
    · rintro ⟨⟨b, hb⟩, bs, hbs⟩
      exact ⟨b :: bs, by rw [hb, hbs]; rfl⟩

theorem mapM_congr (h : ∀ a ∈ l, f a = g a) : l.mapM f = l.mapM g := by
  induction l with
  | nil => rfl
  | cons a l ih =>
    rw [List.mapM_cons, List.mapM_cons, h a List.mem_cons_self,
      ih fun b hb => h b (List.mem_cons_of_mem a hb)]

/-- A list is gone through with what its elements stand for. -/
theorem mapM_eq_ok {R : α → β → Prop} {bs : List β} (h : List.Forall₂ R l bs)
    (hf : ∀ a ∈ l, ∀ b, R a b → f a = .ok b) : l.mapM f = .ok bs := by
  induction h with
  | nil => rfl
  | @cons a b l bs hab hrest ih =>
    have hrest' := ih fun c hc => hf c (List.mem_cons_of_mem a hc)
    rw [List.mapM_cons, hf a List.mem_cons_self b hab, hrest']
    rfl

/-- If a list is not gone through, an element is to blame. -/
theorem exists_error_of_mapM {e : ε} (h : l.mapM f = .error e) : ∃ a ∈ l, f a = .error e := by
  induction l with
  | nil => cases h
  | cons a l ih =>
    rw [List.mapM_cons] at h
    cases ha : f a with
    | error d =>
      rw [ha] at h
      cases h
      exact ⟨a, List.mem_cons_self, ha⟩
    | ok b =>
      rw [ha] at h
      cases hl : l.mapM f with
      | error d =>
        rw [hl] at h
        cases h
        obtain ⟨c, hc, hfc⟩ := ih hl
        exact ⟨c, List.mem_cons_of_mem a hc, hfc⟩
      | ok bs =>
        rw [hl] at h
        cases h

/-- What a list is gone through with comes from its elements. -/
theorem exists_of_mapM {bs : List β} (h : l.mapM f = .ok bs) {b : β} (hb : b ∈ bs) :
    ∃ a ∈ l, f a = .ok b := by
  induction l generalizing bs with
  | nil =>
    cases h
    cases hb
  | cons a l ih =>
    rw [List.mapM_cons] at h
    cases ha : f a with
    | error e =>
      rw [ha] at h
      cases h
    | ok first =>
      rw [ha] at h
      cases hl : l.mapM f with
      | error e =>
        rw [hl] at h
        cases h
      | ok rest =>
        rw [hl] at h
        cases h
        rcases List.mem_cons.1 hb with rfl | hb
        · exact ⟨a, List.mem_cons_self, ha⟩
        · obtain ⟨c, hc, hfc⟩ := ih hl hb
          exact ⟨c, List.mem_cons_of_mem a hc, hfc⟩

theorem forall₂_of_mapM {bs : List β} (h : l.mapM f = .ok bs) :
    List.Forall₂ (fun a b => f a = .ok b) l bs := by
  induction l generalizing bs with
  | nil =>
    cases h
    exact .nil
  | cons a l ih =>
    rw [List.mapM_cons] at h
    cases ha : f a with
    | error e =>
      rw [ha] at h
      cases h
    | ok b =>
      rw [ha] at h
      cases hl : l.mapM f with
      | error e =>
        rw [hl] at h
        cases h
      | ok cs =>
        rw [hl] at h
        cases h
        exact .cons ha (ih hl)

theorem mapM_error_iff : (∃ e, l.mapM f = .error e) ↔ ∃ a ∈ l, ∃ e, f a = .error e := by
  constructor
  · rintro ⟨e, h⟩
    obtain ⟨a, ha, he⟩ := exists_error_of_mapM h
    exact ⟨a, ha, e, he⟩
  · rintro ⟨a, ha, e, he⟩
    cases h : l.mapM f with
    | error d => exact ⟨d, rfl⟩
    | ok bs =>
      obtain ⟨b, hb⟩ := mapM_ok_iff.1 ⟨bs, h⟩ a ha
      rw [hb] at he
      cases he

/-- If each element of a list is related to one of a second list and yields what fits it, the list
yields what fits the second one. -/
theorem YieldsUnless.mapM {γ : Type} {e : ε} {R : α → γ → Prop} {Q : γ → β → Prop} {cs : List γ}
    (h : List.Forall₂ R l cs) (hf : ∀ a c, R a c → YieldsUnless e (f a) (Q c)) :
    YieldsUnless e (l.mapM f) fun bs => List.Forall₂ Q cs bs := by
  induction h with
  | nil => exact .pure .nil
  | @cons a c l cs hac hrest ih =>
    rw [List.mapM_cons]
    refine (hf a c hac).bind fun b hb => ?_
    exact ih.bind fun bs hbs => .pure (.cons hb hbs)

theorem AgreesUnless.mapM {e : ε} (h : ∀ a ∈ l, AgreesUnless e (f a) (g a)) :
    AgreesUnless e (l.mapM f) (l.mapM g) := by
  induction l with
  | nil => exact refl _
  | cons a l ih =>
    rw [List.mapM_cons, List.mapM_cons]
    refine bind (h a List.mem_cons_self) fun b => ?_
    exact bind (ih fun c hc => h c (List.mem_cons_of_mem a hc)) fun bs => refl _

end ScriptOutline
