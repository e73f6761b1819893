import Mathlib.Tactic.Common

/-!
# Computed transition systems

A transition system is given by a function `next : σ → α → Option σ`: the state after an
action, or `none` when the action is not enabled.  A run is a list of actions.

* `run next s as` is the state after the actions `as`, taken one after another from `s`.
* `Along next P s as`: every step of that run satisfies `P`, a relation between the
  state before, the action and the state after.
* `Meets next ok s as`: every action of that run is taken in a state where `ok` holds.
* `Reaches next ok s t`: some run from `s` that meets `ok` ends in `t`.
* `Inserts P as bs`: `bs` is `as` with actions that satisfy `P` inserted.

An invariant of the steps that meet `ok` holds after every run that meets `ok`
(`run_invariant`), and so does along the run what those steps satisfy under the invariant
(`along_of_meets`).  When under the invariant a step satisfies `P` exactly when it meets
`ok`, the runs along which `P` holds are exactly those that meet `ok` (`along_iff_meets`).
Actions that change nothing under an invariant can be inserted into a run
(`Inserts.run_eq`).  A map of states that turns every step into a run turns runs into runs
(`run_flatMap`), and so does a relation of states (`exists_run_of_simulation`).  A goal is
reached when every state short of it has a step that lowers a measure
(`exists_reaches_of_lt`), and a run of steps that all lower a measure is no longer than it
says (`length_add_le_of_lt`).
-/

universe u v

namespace Transition

variable {σ τ : Type u} {α β : Type v}

/-- The state after the actions `as`, taken one after another from `s`. -/
def run (next : σ → α → Option σ) (s : σ) (as : List α) : Option σ :=
  as.foldlM next s

@[simp]
theorem run_nil (next : σ → α → Option σ) (s : σ) :
  run next s [] = some s
  := rfl

theorem run_cons (next : σ → α → Option σ) (s : σ) (a : α) (as : List α) :
  run next s (a :: as) = (next s a).bind (fun t => run next t as)
  := List.foldlM_cons

theorem run_cons_eq_some {next : σ → α → Option σ} {s t : σ} {a : α} {as : List α} :
  run next s (a :: as) = some t ↔ ∃ u, next s a = some u ∧ run next u as = some t
  := by
  rw [run_cons]
  apply Option.bind_eq_some_iff

theorem run_singleton (next : σ → α → Option σ) (s : σ) (a : α) :
  run next s [a] = next s a
  := by
  rw [run_cons]
  simp only [run_nil, Option.bind_fun_some]

theorem run_append (next : σ → α → Option σ) (s : σ) (as bs : List α) :
  run next s (as ++ bs) = (run next s as).bind (fun t => run next t bs)
  := List.foldlM_append

/-- Every step of the run `as` from `s` satisfies `P`. -/
def Along (next : σ → α → Option σ) (P : σ → α → σ → Prop) : σ → List α → Prop
  | _, [] => True
  | s, a :: as => ∀ t, next s a = some t → P s a t ∧ Along next P t as

/-- What every step of a run satisfies, every step of its end satisfies. -/
theorem Along.of_append {next : σ → α → Option σ} {P : σ → α → σ → Prop} {bs : List α} :
    ∀ {as : List α} {s t : σ},
      Along next P s (as ++ bs) → run next s as = some t → Along next P t bs
  | [], _, _, h, hrun => by
      obtain rfl := Option.some.inj hrun
      apply h
  | _ :: _, _, _, h, hrun => by
      obtain ⟨u, hu, hrun⟩ := run_cons_eq_some.mp hrun
      apply Along.of_append (h u hu).2 hrun

/-- Every action of the run `as` from `s` is taken in a state where `ok` holds of it. -/
def Meets (next : σ → α → Option σ) (ok : σ → α → Prop) (s : σ) (as : List α) : Prop :=
  Along next (fun s a _ => ok s a) s as

section Decidable

variable (next : σ → α → Option σ) (P : σ → α → σ → Prop)

theorem along_cons_none {s : σ} {a : α} (as : List α) (h : next s a = none) :
  Along next P s (a :: as)
  := by
  intro t ht
  rw [h] at ht
  cases ht

theorem along_cons_some {s t : σ} {a : α} (as : List α) (h : next s a = some t) :
  P s a t ∧ Along next P t as ↔ Along next P s (a :: as)
  := by
  constructor
  · intro hP u hu
    obtain rfl := Option.some.inj (h.symm.trans hu)
    apply hP
  · intro hP
    apply hP t h

instance Along.decidable [∀ s a t, Decidable (P s a t)] :
    ∀ (s : σ) (as : List α), Decidable (Along next P s as)
  | _, [] => isTrue trivial
  | s, a :: as =>
      match h : next s a with
      | none => isTrue (along_cons_none next P as h)
      | some t =>
          haveI := Along.decidable t as
          decidable_of_iff _ (along_cons_some next P as h)

instance Meets.decidable (ok : σ → α → Prop) [∀ s a, Decidable (ok s a)] (s : σ)
    (as : List α) : Decidable (Meets next ok s as) :=
  Along.decidable next (fun s a _ => ok s a) s as

end Decidable

section Invariants

variable {next : σ → α → Option σ} {ok : σ → α → Prop} {Inv : σ → Prop}

/-- What holds of `s` and is preserved by the steps that meet `ok` holds after every run
from `s` that meets `ok`. -/
theorem run_invariant
    (hstep : ∀ s a t, Inv s → ok s a → next s a = some t → Inv t) :
    ∀ {as : List α} {s t : σ}, Inv s → Meets next ok s as → run next s as = some t → Inv t
  | [], s, t, hs, _, hrun => by
      obtain rfl := Option.some.inj hrun
      apply hs
  | a :: as, s, t, hs, hok, hrun => by
      obtain ⟨u, hu, hrun⟩ := run_cons_eq_some.mp hrun
      obtain ⟨ha, hok⟩ := hok u hu
      apply run_invariant hstep (hstep s a u hs ha hu) hok hrun

/-- A run meets every condition that holds of all its steps. -/
theorem Meets.of_forall (h : ∀ s a, ok s a) :
    ∀ (s : σ) (as : List α), Meets next ok s as
  | _, [] => trivial
  | s, a :: as => by
      intro t _
      constructor
      · apply h
      · apply Meets.of_forall h

/-- What holds of `s` and is preserved by every step holds after every run from `s`. -/
theorem run_invariant_of_step
    (hstep : ∀ s a t, Inv s → next s a = some t → Inv t)
    {as : List α} {s t : σ} (hs : Inv s) (hrun : run next s as = some t) :
  Inv t
  := by
  have hok : Meets next (fun _ _ => True) s as := Meets.of_forall (fun _ _ => trivial) s as
  apply run_invariant _ hs hok hrun
  intro s a t hs _ ht
  apply hstep s a t hs ht

/-- Under an invariant that the steps meeting `ok` preserve, and under which those steps
satisfy `P`, every step of a run that meets `ok` satisfies `P`. -/
theorem along_of_meets {P : σ → α → σ → Prop}
    (hP : ∀ s a t, Inv s → ok s a → next s a = some t → P s a t)
    (hstep : ∀ s a t, Inv s → ok s a → next s a = some t → Inv t) :
    ∀ {as : List α} {s : σ}, Inv s → Meets next ok s as → Along next P s as
  | [], _, _, _ => trivial
  | a :: as, s, hs, hok => by
      intro t ht
      obtain ⟨ha, hok⟩ := hok t ht
      constructor
      · apply hP s a t hs ha ht
      · apply along_of_meets hP hstep (hstep s a t hs ha ht) hok

/-- When a step that does not meet `ok` does harm, and harm once done stays, a run at whose end
no harm has been done meets `ok`. -/
theorem meets_of_not_harmed {Harmed : σ → Prop}
    (hstep : ∀ s a t, Inv s → ok s a → next s a = some t → Inv t)
    (hharm : ∀ s a t, Inv s → ¬ ok s a → next s a = some t → Harmed t)
    (hkept : ∀ s a t, Harmed s → next s a = some t → Harmed t) :
    ∀ {as : List α} {s t : σ}, Inv s → run next s as = some t → ¬ Harmed t → Meets next ok s as
  | [], _, _, _, _, _ => trivial
  | a :: as, s, t, hs, hrun, ht => by
      obtain ⟨u, hu, hrun⟩ := run_cons_eq_some.mp hrun
      have ha : ok s a := by
        by_contra hbad
        apply ht
        apply run_invariant_of_step hkept (hharm s a u hs hbad hu) hrun
      intro u' hu'
      obtain rfl := Option.some.inj (hu.symm.trans hu')
      exact ⟨ha, meets_of_not_harmed hstep hharm hkept (hstep s a u hs ha hu) hrun ht⟩

/-- Under an invariant that the steps meeting `ok` preserve, and under which a step
satisfies `P` exactly when it meets `ok`, the runs along which `P` holds are the runs
that meet `ok`. -/
theorem along_iff_meets {P : σ → α → σ → Prop}
    (hP : ∀ s a t, Inv s → next s a = some t → (P s a t ↔ ok s a))
    (hstep : ∀ s a t, Inv s → ok s a → next s a = some t → Inv t) :
    ∀ {as : List α} {s : σ}, Inv s → (Along next P s as ↔ Meets next ok s as)
  | [], _, _ => Iff.rfl
  | a :: as, s, hs => by
      have key : ∀ t, next s a = some t →
          (P s a t ∧ Along next P t as ↔ ok s a ∧ Meets next ok t as) := by
        intro t ht
        rw [hP s a t hs ht]
        apply and_congr_right
        intro ha
        apply along_iff_meets hP hstep (hstep s a t hs ha ht)
      constructor
      · intro h t ht
        apply (key t ht).mp (h t ht)
      · intro h t ht
        apply (key t ht).mpr (h t ht)

end Invariants

section Insertion

variable {next : σ → α → Option σ} {P : α → Prop}

/-- Actions that satisfy `P` inserted into a list. -/
inductive Inserts (P : α → Prop) : List α → List α → Prop where
  | nil : Inserts P [] []
  | keep (a : α) {as bs : List α} (h : Inserts P as bs) : Inserts P (a :: as) (a :: bs)
  | insert {a : α} (ha : P a) {as bs : List α} (h : Inserts P as bs) : Inserts P as (a :: bs)

/-- Actions that change nothing under an invariant can be inserted into a run. -/
theorem Inserts.run_eq {Inv : σ → Prop} (hidle : ∀ s a, Inv s → P a → next s a = some s)
    (hstep : ∀ s a t, Inv s → next s a = some t → Inv t) {as bs : List α}
    (h : Inserts P as bs) {s : σ} (hs : Inv s) :
  run next s bs = run next s as
  := by
  induction h generalizing s with
  | nil => rfl
  | keep a h ih =>
      rw [run_cons, run_cons]
      cases hnext : next s a with
      | none => rfl
      | some t => apply ih (hstep s a t hs hnext)
  | insert ha h ih =>
      rw [run_cons, hidle s _ hs ha]
      apply ih hs

end Insertion

section Reachability

variable {next : σ → α → Option σ} {ok ok' : σ → α → Prop}

/-- `t` is the state after a run from `s` that meets `ok`. -/
def Reaches (next : σ → α → Option σ) (ok : σ → α → Prop) (s t : σ) : Prop :=
  ∃ as, Meets next ok s as ∧ run next s as = some t

theorem Reaches.refl (s : σ) :
  Reaches next ok s s
  := ⟨[], trivial, rfl⟩

theorem Reaches.head {s t u : σ} {a : α} (ha : ok s a) (ht : next s a = some t)
    (h : Reaches next ok t u) :
  Reaches next ok s u
  := by
  obtain ⟨as, hok, hrun⟩ := h
  use a :: as
  constructor
  · intro t' ht'
    obtain rfl := Option.some.inj (ht.symm.trans ht')
    exact ⟨ha, hok⟩
  · rw [run_cons, ht]
    apply hrun

theorem Reaches.trans {s t u : σ} (h : Reaches next ok s t) (h' : Reaches next ok t u) :
  Reaches next ok s u
  := by
  obtain ⟨as, hok, hrun⟩ := h
  induction as generalizing s with
  | nil =>
      obtain rfl := Option.some.inj hrun
      apply h'
  | cons a as ih =>
      obtain ⟨v, hv, hrun⟩ := run_cons_eq_some.mp hrun
      obtain ⟨ha, hok⟩ := hok v hv
      apply Reaches.head ha hv (ih hok hrun)

theorem Reaches.mono (hok : ∀ s a, ok s a → ok' s a) {s t : σ} (h : Reaches next ok s t) :
  Reaches next ok' s t
  := by
  obtain ⟨as, hmeets, hrun⟩ := h
  induction as generalizing s with
  | nil => use [], trivial, hrun
  | cons a as ih =>
      obtain ⟨v, hv, hrun⟩ := run_cons_eq_some.mp hrun
      obtain ⟨ha, hmeets⟩ := hmeets v hv
      apply Reaches.head (hok s a ha) hv (ih hmeets hrun)

/-- What holds of `s` and is preserved by the steps that meet `ok` holds of every state that
is reached from `s`. -/
theorem Reaches.invariant {Inv : σ → Prop}
    (hstep : ∀ s a t, Inv s → ok s a → next s a = some t → Inv t) {s t : σ}
    (h : Reaches next ok s t) (hs : Inv s) :
  Inv t
  := by
  obtain ⟨as, hok, hrun⟩ := h
  apply run_invariant hstep hs hok hrun

/-- When every state short of the goal has a step that lowers a measure, the goal is reached. -/
theorem exists_reaches_of_lt {ι : Type*} {r : ι → ι → Prop} (hr : WellFounded r)
    {Inv goal : σ → Prop} (measure : σ → ι)
    (h : ∀ s, Inv s → ¬ goal s →
      ∃ a t, ok s a ∧ next s a = some t ∧ Inv t ∧ r (measure t) (measure s))
    {s : σ} (hs : Inv s) :
  ∃ t, Reaches next ok s t ∧ Inv t ∧ goal t
  := by
  induction hm : measure s using hr.induction generalizing s with
  | h m ih =>
      subst hm
      by_cases hgoal : goal s
      · use s, Reaches.refl s
      · obtain ⟨a, t, ha, hnext, ht, hlt⟩ := h s hs hgoal
        obtain ⟨u, hreaches, hu⟩ := ih _ hlt ht rfl
        use u, Reaches.head ha hnext hreaches

/-- When every step that meets `ok` lowers a measure, a run that meets `ok` has at most as many
steps as the measure says. -/
theorem length_add_le_of_lt {Inv : σ → Prop} (measure : σ → ℕ)
    (h : ∀ s a t, Inv s → ok s a → next s a = some t → Inv t ∧ measure t < measure s)
    {as : List α} {s t : σ} (hs : Inv s) (hok : Meets next ok s as)
    (hrun : run next s as = some t) :
  as.length + measure t ≤ measure s
  := by
  induction as generalizing s with
  | nil =>
      obtain rfl := Option.some.inj hrun
      simp
  | cons a as ih =>
      obtain ⟨u, hu, hrun⟩ := run_cons_eq_some.mp hrun
      obtain ⟨ha, hok⟩ := hok u hu
      obtain ⟨hinv, hlt⟩ := h s a u hs ha hu
      have hle := ih hinv hok hrun
      rw [List.length_cons]
      omega

end Reachability

section Simulation

variable {next : σ → α → Option σ} {next' : τ → β → Option τ} {f : σ → τ}
  {g : α → List β}

/-- When every step is a run of the system `next'`, every run is. -/
theorem run_flatMap
    (h : ∀ s a t, next s a = some t → run next' (f s) (g a) = some (f t)) :
    ∀ {as : List α} {s t : σ},
      run next s as = some t → run next' (f s) (as.flatMap g) = some (f t)
  | [], s, t, hrun => by
      obtain rfl := Option.some.inj hrun
      rfl
  | a :: as, s, t, hrun => by
      obtain ⟨u, hu, hrun⟩ := run_cons_eq_some.mp hrun
      rw [List.flatMap_cons, run_append, h s a u hu]
      apply run_flatMap h hrun

/-- When from related states every step that meets `ok` is a run of the system `next'`, every
run that meets `ok` is. -/
theorem exists_run_of_simulation {R : σ → τ → Prop} {ok : σ → α → Prop}
    (h : ∀ s a t s', R s s' → ok s a → next s a = some t →
      ∃ bs t', run next' s' bs = some t' ∧ R t t') :
    ∀ {as : List α} {s t : σ} {s' : τ}, R s s' → Meets next ok s as → run next s as = some t →
      ∃ bs t', run next' s' bs = some t' ∧ R t t'
  | [], _, _, s', hs, _, hrun => by
      obtain rfl := Option.some.inj hrun
      use [], s', rfl
  | _ :: _, _, _, _, hs, hok, hrun => by
      obtain ⟨u, hu, hrun⟩ := run_cons_eq_some.mp hrun
      obtain ⟨bs, u', hbs, hu'⟩ := h _ _ _ _ hs (hok u hu).1 hu
      obtain ⟨cs, t', hcs, ht⟩ := exists_run_of_simulation h hu' (hok u hu).2 hrun
      use bs ++ cs, t'
      rw [run_append, hbs]
      exact ⟨hcs, ht⟩

end Simulation

end Transition
