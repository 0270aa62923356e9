import Mathlib.Data.List.Infix
import Mathlib.Tactic.Common

/-!
# GameServer.Lib.Run

Runs of a deterministic machine and the rules for properties of whole runs.

A machine is a step function `step : σ → ε → σ`; every source of
nondeterminism (scheduling, arguments, random bytes, the answer of another
process) is part of the event `ε`, so one list of events is one run.

* `run` — the state a list of events reaches;
* `Always step Inv s es` — `Inv` holds in every state of the run;
* `Along step ok s es` — `ok` holds of every step (state before, event);
* `run_induction`, `run_backward` — what every step keeps, and what no step
  can bring about;
* `foldl_of_trans` — a loop does what each pass of it does, for a
  transitive relation between the states;
* `always_of_along`, `always_of_forall_step` — the invariant rule;
* `recording` — the machine with the observations it has made so far;
* `always_iff_along`, `always_iff_along_of_backward`,
  `always_iff_along_of_strong` — the exact form: when a
  step keeps the invariant precisely if it is `ok`, a run keeps it precisely
  if all its steps are.
-/

namespace GameServer

variable {σ ε : Type}

/-- The state reached from `s` by the events `es`, in order. -/
def run (step : σ → ε → σ) (s : σ) (es : List ε) : σ := es.foldl step s

/-- `Inv` holds in every state of the run, the first and the last included. -/
def Always (step : σ → ε → σ) (Inv : σ → Prop) (s : σ) : List ε → Prop
  | [] => Inv s
  | e :: es => Inv s ∧ Always step Inv (step s e) es

/-- `ok` holds of every step of the run. -/
def Along (step : σ → ε → σ) (ok : σ → ε → Prop) (s : σ) : List ε → Prop
  | [] => True
  | e :: es => ok s e ∧ Along step ok (step s e) es

instance instDecidableAlways {step : σ → ε → σ} {Inv : σ → Prop} [DecidablePred Inv] :
    (s : σ) → (es : List ε) → Decidable (Always step Inv s es)
  | s, [] => inferInstanceAs (Decidable (Inv s))
  | s, e :: es =>
      let : Decidable (Always step Inv (step s e) es) := instDecidableAlways (step s e) es
      inferInstanceAs (Decidable (Inv s ∧ Always step Inv (step s e) es))

instance instDecidableAlong {step : σ → ε → σ} {ok : σ → ε → Prop} [∀ s e, Decidable (ok s e)] :
    (s : σ) → (es : List ε) → Decidable (Along step ok s es)
  | _, [] => isTrue trivial
  | s, e :: es =>
      let : Decidable (Along step ok (step s e) es) := instDecidableAlong (step s e) es
      inferInstanceAs (Decidable (ok s e ∧ Along step ok (step s e) es))

/-- The machine that keeps what was observed of each step. -/
def recording {ω : Type} (step : σ → ε → σ) (obs : σ → ε → List ω) (sh : σ × List ω) (e : ε) :
    σ × List ω :=
  (step sh.1 e, sh.2 ++ obs sh.1 e)

section

variable {step : σ → ε → σ} {Inv W : σ → Prop} {ok : σ → ε → Prop} {s : σ} {es : List ε}

@[simp] theorem run_nil : run step s [] = s := rfl

@[simp] theorem run_cons (e : ε) : run step s (e :: es) = run step (step s e) es := rfl

theorem run_append (es' : List ε) : run step s (es ++ es') = run step (run step s es) es' :=
  List.foldl_append

/-- What holds first and is kept by every step holds after every run. -/
theorem run_induction (h0 : W s) (hstep : ∀ s e, W s → W (step s e)) : W (run step s es) := by
  induction es generalizing s with
  | nil => exact h0
  | cons e es ih => exact ih (hstep s e h0)

/-- What no event of the run can bring about held at its start. -/
theorem run_backward {P : σ → Prop} (hstep : ∀ s, ∀ e ∈ es, P (step s e) → P s)
    (h : P (run step s es)) : P s := by
  induction es generalizing s with
  | nil => exact h
  | cons e es ih =>
      have hnext := ih (fun s e' he' => hstep s e' (List.mem_cons_of_mem e he')) h
      exact hstep s e List.mem_cons_self hnext

/-- A loop over a list relates its first state to its last by a reflexive and
transitive relation if each pass does. -/
theorem foldl_of_trans {α : Type} {R : σ → σ → Prop} (hrefl : ∀ s, R s s)
    (htrans : ∀ {s₁ s₂ s₃}, R s₁ s₂ → R s₂ s₃ → R s₁ s₃) {f : σ → α → σ} {l : List α}
    (h : ∀ s, ∀ a ∈ l, R s (f s a)) (s : σ) : R s (l.foldl f s) := by
  induction l generalizing s with
  | nil => exact hrefl s
  | cons a l ih =>
      have hhead := h s a List.mem_cons_self
      exact htrans hhead (ih (fun s b hb => h s b (List.mem_cons_of_mem a hb)) (f s a))

/-- `Always` speaks about the states of all prefixes of the run. -/
theorem always_iff_forall_part :
    Always step Inv s es ↔ ∀ p, p <+: es → Inv (run step s p) := by
  induction es generalizing s with
  | nil =>
      constructor
      · intro h p hp
        rw [List.prefix_nil.mp hp]
        exact h
      · intro h
        exact h [] List.nil_prefix
  | cons e es ih =>
      simp only [Always, ih]
      constructor
      · rintro ⟨hs, h⟩ p hp
        cases p with
        | nil => exact hs
        | cons e' p =>
            obtain ⟨rfl, hp'⟩ := List.cons_prefix_cons.mp hp
            exact h p hp'
      · intro h
        refine ⟨h [] List.nil_prefix, fun p hp => ?_⟩
        exact h (e :: p) (List.cons_prefix_cons.mpr ⟨rfl, hp⟩)

theorem Always.imp {Inv' : σ → Prop} (h : Always step Inv s es) (himp : ∀ s, Inv s → Inv' s) :
    Always step Inv' s es := by
  induction es generalizing s with
  | nil => exact himp s h
  | cons e es ih => exact ⟨himp s h.1, ih h.2⟩

/-- What holds of the events in any state holds along the run. -/
theorem along_of_forall (h : ∀ e ∈ es, ∀ s, ok s e) : Along step ok s es := by
  induction es generalizing s with
  | nil => trivial
  | cons e es ih =>
      exact ⟨h e List.mem_cons_self s, ih fun e' he' => h e' (List.mem_cons_of_mem e he')⟩

theorem Along.and {ok' : σ → ε → Prop} (h : Along step ok s es) (h' : Along step ok' s es) :
    Along step (fun s e => ok s e ∧ ok' s e) s es := by
  induction es generalizing s with
  | nil => trivial
  | cons e es ih => exact ⟨⟨h.1, h'.1⟩, ih h.2 h'.2⟩

theorem Along.imp {ok' : σ → ε → Prop} (h : Along step ok s es) (himp : ∀ s e, ok s e → ok' s e) :
    Along step ok' s es := by
  induction es generalizing s with
  | nil => trivial
  | cons e es ih => exact ⟨himp s e h.1, ih h.2⟩

theorem along_congr {ok' : σ → ε → Prop} (h : ∀ s e, ok s e ↔ ok' s e) :
    Along step ok s es ↔ Along step ok' s es := by
  induction es generalizing s with
  | nil => exact Iff.rfl
  | cons e es ih => exact and_congr (h s e) ih

theorem along_append (es' : List ε) :
    Along step ok s (es ++ es') ↔ Along step ok s es ∧ Along step ok (run step s es) es' := by
  induction es generalizing s with
  | nil => simp [Along]
  | cons e es ih => simp [Along, ih, and_assoc]

/-- **Invariant rule**: an invariant that every `ok` step keeps holds in
every state of a run whose steps are all `ok`. -/
theorem always_of_along (h0 : Inv s) (hstep : ∀ s e, Inv s → ok s e → Inv (step s e))
    (hrun : Along step ok s es) : Always step Inv s es := by
  induction es generalizing s with
  | nil => exact h0
  | cons e es ih => exact ⟨h0, ih (hstep s e h0 hrun.1) hrun.2⟩

/-- What an invariant and an `ok` step give together holds along the run. -/
theorem along_of_along {ok' : σ → ε → Prop} (h0 : Inv s)
    (hstep : ∀ s e, Inv s → ok s e → Inv (step s e)) (h : ∀ s e, Inv s → ok s e → ok' s e)
    (hrun : Along step ok s es) : Along step ok' s es := by
  induction es generalizing s with
  | nil => trivial
  | cons e es ih => exact ⟨h s e h0 hrun.1, ih (hstep s e h0 hrun.1) hrun.2⟩

/-- What holds in every state holds after every step. -/
theorem along_of_always (h : Always step Inv s es) :
    Along step (fun s e => Inv (step s e)) s es := by
  induction es generalizing s with
  | nil => trivial
  | cons e es ih =>
      have hnext : Inv (step s e) := by
        cases es with
        | nil => exact h.2
        | cons _ _ => exact h.2.1
      exact ⟨hnext, ih h.2⟩

/-- An invariant that every step keeps holds in every state. -/
theorem always_of_forall_step (h0 : Inv s) (hstep : ∀ s e, Inv s → Inv (step s e)) :
    Always step Inv s es := by
  induction es generalizing s with
  | nil => exact h0
  | cons e es ih => exact ⟨h0, ih (hstep s e h0)⟩

/-- What an invariant gives for every step holds along every run. -/
theorem along_of_forall_step (h0 : Inv s) (hstep : ∀ s e, Inv s → Inv (step s e))
    (h : ∀ s e, Inv s → ok s e) : Along step ok s es := by
  induction es generalizing s with
  | nil => trivial
  | cons e es ih => exact ⟨h s e h0, ih (hstep s e h0)⟩

/-- The exact invariant rule under a bound that held before if it holds at the
end. -/
theorem always_iff_along_of_backward {R : σ → Prop} (hback : ∀ s e, R (step s e) → R s)
    (hend : R (run step s es)) (hW0 : W s) (h0 : Inv s)
    (hW : ∀ s e, W s → R (step s e) → W (step s e))
    (hstep : ∀ s e, W s → Inv s → (Inv (step s e) ↔ ok s e)) :
    Always step Inv s es ↔ Along step ok s es := by
  induction es generalizing s with
  | nil => exact ⟨fun _ => trivial, fun _ => h0⟩
  | cons e es ih =>
      have hbound : R (step s e) := run_backward (fun s e _ => hback s e) hend
      have hnextW : W (step s e) := hW s e hW0 hbound
      constructor
      · rintro ⟨_, h⟩
        have hnext : Inv (step s e) := by
          cases es with
          | nil => exact h
          | cons _ _ => exact h.1
        exact ⟨(hstep s e hW0 h0).mp hnext, (ih hend hnextW hnext).mp h⟩
      · rintro ⟨hok, h⟩
        have hnext := (hstep s e hW0 h0).mpr hok
        exact ⟨h0, (ih hend hnextW hnext).mpr h⟩

/-- **Exact invariant rule**: if, in the states where `W` holds, a step
keeps the invariant precisely when it is `ok`, then a run keeps it
throughout precisely when all its steps are `ok`. -/
theorem always_iff_along (hW0 : W s) (h0 : Inv s) (hW : ∀ s e, W s → W (step s e))
    (hstep : ∀ s e, W s → Inv s → (Inv (step s e) ↔ ok s e)) :
    Always step Inv s es ↔ Along step ok s es :=
  always_iff_along_of_backward (R := fun _ => True) (fun _ _ => id) trivial hW0 h0
    (fun s e h _ => hW s e h) hstep

/-- **Exact invariant rule, strengthened**: an invariant that a stronger one
implies holds throughout a run precisely if all its steps are `ok`, when an
`ok` step keeps the stronger one and a step that keeps the weaker one is
`ok`. -/
theorem always_iff_along_of_strong (h0 : W s) (himp : ∀ s, W s → Inv s)
    (hkeep : ∀ s e, W s → ok s e → W (step s e)) (hok : ∀ s e, W s → Inv (step s e) → ok s e) :
    Always step Inv s es ↔ Along step ok s es := by
  constructor
  · induction es generalizing s with
    | nil => exact fun _ => trivial
    | cons e es ih =>
        rintro ⟨_, h⟩
        have hnext : Inv (step s e) := by
          cases es with
          | nil => exact h
          | cons _ _ => exact h.1
        have hstep := hok s e h0 hnext
        exact ⟨hstep, ih (hkeep s e h0 hstep) h⟩
  · intro hrun
    exact (always_of_along h0 hkeep hrun).imp himp

/-- A condition on the machine's own steps does not see what is recorded. -/
theorem along_recording {ω : Type} (obs : σ → ε → List ω) (h : List ω) :
    Along (recording step obs) (fun sh e => ok sh.1 e) (s, h) es ↔ Along step ok s es := by
  induction es generalizing s h with
  | nil => exact Iff.rfl
  | cons e es ih => exact and_congr_right fun _ => ih (h ++ obs s e)

/-- A run of the recording machine is a run of the machine. -/
theorem fst_run_recording {ω : Type} (obs : σ → ε → List ω) (h : List ω) :
    (run (recording step obs) (s, h) es).1 = run step s es := by
  induction es generalizing s h with
  | nil => rfl
  | cons e es ih => exact ih (s := step s e) (h ++ obs s e)

/-- What was observed stays observed. -/
theorem snd_run_recording_of_isPrefix {ω : Type} {obs : σ → ε → List ω} {h : List ω}
    {p : List ε} (hp : p <+: es) :
    (run (recording step obs) (s, h) p).2 <+: (run (recording step obs) (s, h) es).2 := by
  obtain ⟨rest, rfl⟩ := hp
  rw [run_append]
  generalize run (recording step obs) (s, h) p = sh
  induction rest generalizing sh with
  | nil => exact List.prefix_rfl
  | cons e rest ih => exact (List.prefix_append _ _).trans (ih (recording step obs sh e))

end

end GameServer
