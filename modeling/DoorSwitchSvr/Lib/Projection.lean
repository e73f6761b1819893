import DoorSwitchSvr.Lib.Transition

/-!
# Components of transition systems

A component of a system is given by a view `f` of the states of the system, and by the
actions `g s a` that the component takes when the system takes the action `a` in the state
`s`.

* `trace next g s as`: the actions that the component takes in the run `as` from `s`.

When under an invariant every step of the system is seen as a run of the component, the
trace of every run is a run of the component (`run_trace`), and it meets what the component
meets in each step (`meets_trace`).  When the actions of the component do not depend on the
state of the system, its trace is read off from the actions of the run (`trace_of_run`).

A trace also says what has come into a state and gone out of it during a run
(`history_eq_append`, `append_trace`, `le_length_trace`).
-/

universe u v

namespace Transition

variable {σ τ : Type u} {α β : Type v}

/-- The actions that the component takes in the run `as` from `s`. -/
def trace (next : σ → α → Option σ) (g : σ → α → List β) : σ → List α → List β
  | _, [] => []
  | s, a :: as =>
      match next s a with
      | none => []
      | some t => g s a ++ trace next g t as

theorem trace_cons {next : σ → α → Option σ} {g : σ → α → List β} {s t : σ} {a : α}
    (as : List α) (h : next s a = some t) :
  trace next g s (a :: as) = g s a ++ trace next g t as
  := by
  rw [trace, h]

theorem flatMap_trace (next : σ → α → Option σ) (g : σ → α → List β) {γ : Type v}
    (f : β → List γ) :
    ∀ (s : σ) (as : List α),
      (trace next g s as).flatMap f = trace next (fun s a => (g s a).flatMap f) s as
  | _, [] => rfl
  | s, a :: as => by
      cases h : next s a with
      | none => simp only [trace, h, List.flatMap_nil]
      | some t => rw [trace_cons as h, trace_cons as h, List.flatMap_append, flatMap_trace]

/-- When the actions of the component do not depend on the state, its trace is read off from
the actions of the run. -/
theorem trace_of_run {next : σ → α → Option σ} (g : α → List β) :
    ∀ {as : List α} {s t : σ},
      run next s as = some t → trace next (fun _ => g) s as = as.flatMap g
  | [], _, _, _ => rfl
  | a :: as, s, t, hrun => by
      obtain ⟨u, hu, hrun⟩ := run_cons_eq_some.mp hrun
      rw [trace_cons as hu, List.flatMap_cons, trace_of_run g hrun]

/-- When the actions of the component in each step are among those read off from the action of
the system, in their order, its trace is among those read off from the actions of the run. -/
theorem trace_sublist (next : σ → α → Option σ) {g : σ → α → List β} {g' : α → List β}
    (h : ∀ s a, (g s a).Sublist (g' a)) :
    ∀ (s : σ) (as : List α), (trace next g s as).Sublist (as.flatMap g')
  | _, [] => List.Sublist.refl _
  | s, a :: as => by
      cases hnext : next s a with
      | none =>
          rw [trace, hnext]
          apply List.nil_sublist
      | some t =>
          rw [trace_cons as hnext, List.flatMap_cons]
          apply (h s a).append (trace_sublist next h t as)

theorem meets_singleton {next : σ → α → Option σ} {ok : σ → α → Prop} {s : σ} {a : α}
    (h : ok s a) :
  Meets next ok s [a]
  := fun _ _ => ⟨h, trivial⟩

/-- A run meets what holds of each of its actions. -/
theorem meets_of_forall_mem {next : σ → α → Option σ} {ok : α → Prop} :
    ∀ (s : σ) {as : List α}, (∀ a ∈ as, ok a) → Meets next (fun _ a => ok a) s as
  | _, [], _ => trivial
  | _, a :: _, h => fun t _ =>
      ⟨h a List.mem_cons_self,
        meets_of_forall_mem t (fun a' ha' => h a' (List.mem_cons_of_mem a ha'))⟩

/-- A run that meets two conditions meets both of them in each step. -/
theorem Meets.and {next : σ → α → Option σ} {ok ok' : σ → α → Prop} :
    ∀ {s : σ} {as : List α}, Meets next ok s as → Meets next ok' s as →
      Meets next (fun s a => ok s a ∧ ok' s a) s as
  | _, [], _, _ => trivial
  | _, _ :: _, h, h' => fun t ht =>
      ⟨⟨(h t ht).1, (h' t ht).1⟩, Meets.and (h t ht).2 (h' t ht).2⟩

/-- A step as `P` describes is taken in the run `as` from `s`. -/
def Occurs (next : σ → α → Option σ) (P : σ → α → Prop) (s : σ) (as : List α) : Prop :=
  ∃ bs a cs t, as = bs ++ a :: cs ∧ run next s bs = some t ∧ P t a

/-- Every step of a run occurs in it. -/
theorem meets_occurs {ι : Type*} {next : σ → α → Option σ} (P : ι → σ → α → Prop) (s : σ)
    (as : List α) :
  Meets next (fun t a => ∀ i, P i t a → Occurs next (P i) s as) s as
  := by
  have hrest : ∀ cs bs t, as = bs ++ cs → run next s bs = some t →
      Meets next (fun t a => ∀ i, P i t a → Occurs next (P i) s as) t cs := by
    intro cs
    induction cs with
    | nil => exact fun _ _ _ _ => trivial
    | cons a cs ih =>
        intro bs t has hrun u hu
        constructor
        · intro i hP
          exact ⟨bs, a, cs, t, has, hrun, hP⟩
        · apply ih (bs ++ [a])
          · rw [has, List.append_assoc, List.singleton_append]
          · rw [run_append, hrun, Option.bind_some, run_singleton, hu]
  apply hrest as [] s rfl rfl

/-- Along a run and then along its continuation. -/
theorem Along.append {next : σ → α → Option σ} {P : σ → α → σ → Prop} {bs : List α} :
    ∀ {as : List α} {s t : σ},
      Along next P s as → run next s as = some t → Along next P t bs →
        Along next P s (as ++ bs)
  | [], _, _, _, hrun, h => by
      obtain rfl := Option.some.inj hrun
      apply h
  | a :: as, s, t, has, hrun, h => by
      obtain ⟨u, hu, hrun⟩ := run_cons_eq_some.mp hrun
      intro u' hu'
      obtain rfl := Option.some.inj (hu.symm.trans hu')
      obtain ⟨ha, has⟩ := has u hu
      constructor
      · apply ha
      · apply has.append hrun h

section Component

variable {next : σ → α → Option σ} {next' : τ → β → Option τ} {f : σ → τ}
  {g : σ → α → List β} {Inv : σ → Prop} {ok : σ → α → Prop} {ok' : τ → β → Prop}

/-- When under an invariant every step that meets `ok` is seen as a run of the component,
the trace of every run that meets `ok` is a run of the component. -/
theorem run_trace
    (hview : ∀ s a t, Inv s → ok s a → next s a = some t →
      run next' (f s) (g s a) = some (f t))
    (hstep : ∀ s a t, Inv s → ok s a → next s a = some t → Inv t) :
    ∀ {as : List α} {s t : σ}, Inv s → Meets next ok s as → run next s as = some t →
      run next' (f s) (trace next g s as) = some (f t)
  | [], _, _, _, _, hrun => by
      obtain rfl := Option.some.inj hrun
      rfl
  | a :: as, s, t, hs, hok, hrun => by
      obtain ⟨u, hu, hrun⟩ := run_cons_eq_some.mp hrun
      obtain ⟨ha, hok⟩ := hok u hu
      rw [trace_cons as hu, run_append, hview s a u hs ha hu]
      apply run_trace hview hstep (hstep s a u hs ha hu) hok hrun

/-- When moreover what the component does in each step meets `ok'`, its trace does. -/
theorem meets_trace
    (hview : ∀ s a t, Inv s → ok s a → next s a = some t →
      run next' (f s) (g s a) = some (f t))
    (hmeets : ∀ s a t, Inv s → ok s a → next s a = some t → Meets next' ok' (f s) (g s a))
    (hstep : ∀ s a t, Inv s → ok s a → next s a = some t → Inv t) :
    ∀ {as : List α} {s : σ}, Inv s → Meets next ok s as →
      Meets next' ok' (f s) (trace next g s as)
  | [], _, _, _ => trivial
  | a :: as, s, hs, hok => by
      cases hu : next s a with
      | none =>
          rw [trace, hu]
          trivial
      | some u =>
          obtain ⟨ha, hok⟩ := hok u hu
          rw [trace_cons as hu]
          apply Along.append (hmeets s a u hs ha hu) (hview s a u hs ha hu)
          apply meets_trace hview hmeets hstep (hstep s a u hs ha hu) hok

end Component

section Accounting

variable {next : σ → α → Option σ} {Inv : σ → Prop} {γ : Type v}

/-- A history that each step extends is extended by a run. -/
theorem history_eq_append {history : σ → List γ} {comes : σ → α → List γ}
    (h : ∀ s a t, Inv s → next s a = some t → history t = history s ++ comes s a)
    (hstep : ∀ s a t, Inv s → next s a = some t → Inv t) :
    ∀ {as : List α} {s t : σ}, Inv s → run next s as = some t →
      history t = history s ++ trace next comes s as
  | [], s, t, _, hrun => by
      obtain rfl := Option.some.inj hrun
      simp [trace]
  | a :: as, s, t, hs, hrun => by
      obtain ⟨u, hu, hrun⟩ := run_cons_eq_some.mp hrun
      rw [trace_cons as hu, history_eq_append h hstep (hstep s a u hs hu) hrun, h s a u hs hu,
        List.append_assoc]

/-- What a state holds, with what comes in during a run, is what goes out during the run,
with what is held at its end. -/
theorem append_trace {holds : σ → List γ} {comes goes : σ → α → List γ}
    (h : ∀ s a t, Inv s → next s a = some t → holds s ++ comes s a = goes s a ++ holds t)
    (hstep : ∀ s a t, Inv s → next s a = some t → Inv t) :
    ∀ {as : List α} {s t : σ}, Inv s → run next s as = some t →
      holds s ++ trace next comes s as = trace next goes s as ++ holds t
  | [], s, t, _, hrun => by
      obtain rfl := Option.some.inj hrun
      simp [trace]
  | a :: as, s, t, hs, hrun => by
      obtain ⟨u, hu, hrun⟩ := run_cons_eq_some.mp hrun
      rw [trace_cons as hu, trace_cons as hu, ← List.append_assoc, h s a u hs hu,
        List.append_assoc, append_trace h hstep (hstep s a u hs hu) hrun, List.append_assoc]

/-- What grows in each step by no more than comes in, has grown during a run by no more than
has come in. -/
theorem le_length_trace {size : σ → ℕ} {comes : σ → α → List γ}
    (h : ∀ s a t, next s a = some t → size t ≤ size s + (comes s a).length) :
    ∀ {as : List α} {s t : σ}, run next s as = some t →
      size t ≤ size s + (trace next comes s as).length
  | [], s, t, hrun => by
      obtain rfl := Option.some.inj hrun
      simp [trace]
  | a :: as, s, t, hrun => by
      obtain ⟨u, hu, hrun⟩ := run_cons_eq_some.mp hrun
      have hsize := h s a u hu
      have hrest := le_length_trace h hrun
      rw [trace_cons as hu, List.length_append]
      omega

end Accounting

end Transition
