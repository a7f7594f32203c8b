/-
# How steps of an evaluation end

A sequence of steps ends as its first step does if that fails, and otherwise as the further steps do
from the session that the first one leaves.
-/
import Sigil.Evaluate
import Sigil.Proofs.Decomposition

namespace Sigil

namespace Eval

variable {α β : Type} {x : Eval α} {s t : Session}

@[simp] lemma run_pure (a : α) (s : Session) : (pure a : Eval α).run s = some (.ok a, s) := rfl

@[simp] lemma run_ofExcept (r : Except Failure α) (s : Session) :
    (ofExcept r).run s = some (r, s) := rfl

@[simp] lemma run_ofFault (r : Except Fault α) (s : Session) :
    (ofFault r).run s = some (r.mapError .fault, s) := rfl

lemma run_bind (x : Eval α) (f : α → Eval β) (s : Session) :
    (x >>= f).run s = (x.run s).bind fun (r, t) => match r with
      | .ok a => (f a).run t
      | .error e => some (.error e, t) := by
  change (x.run s >>= fun (r, t) => ExceptT.bindCont f r t) = _
  cases x.run s with
  | none => rfl
  | some p =>
      obtain ⟨r, t⟩ := p
      cases r <;> rfl

lemma run_bind_ok {a : α} (h : x.run s = some (.ok a, t)) (f : α → Eval β) :
    (x >>= f).run s = (f a).run t := by
  rw [run_bind, h]
  rfl

lemma run_bind_error {e : Failure} (h : x.run s = some (.error e, t)) (f : α → Eval β) :
    (x >>= f).run s = some (.error e, t) := by
  rw [run_bind, h]
  rfl

/-- A sequence succeeds exactly if both of its steps do. -/
lemma run_bind_eq_ok {f : α → Eval β} {b : β} :
    (x >>= f).run s = some (.ok b, t) ↔
      ∃ a u, x.run s = some (.ok a, u) ∧ (f a).run u = some (.ok b, t) := by
  rw [run_bind, Option.bind_eq_some_iff]
  constructor
  · rintro ⟨⟨e | a, u⟩, hx, hf⟩
    · simp at hf
    · exact ⟨a, u, hx, hf⟩
  · rintro ⟨a, u, hx, hf⟩
    exact ⟨_, hx, hf⟩

/-- A sequence fails exactly if its first step does, or succeeds and its second step fails. -/
lemma run_bind_eq_error {f : α → Eval β} {e : Failure} :
    (x >>= f).run s = some (.error e, t) ↔ x.run s = some (.error e, t) ∨
      ∃ a u, x.run s = some (.ok a, u) ∧ (f a).run u = some (.error e, t) := by
  rw [run_bind, Option.bind_eq_some_iff]
  constructor
  · rintro ⟨⟨e' | a, u⟩, hx, hf⟩
    · obtain ⟨rfl, rfl⟩ : e' = e ∧ u = t := by simpa using hf
      exact .inl hx
    · exact .inr ⟨a, u, hx, hf⟩
  · rintro (hx | ⟨a, u, hx, hf⟩)
    · exact ⟨_, hx, rfl⟩
    · exact ⟨_, hx, hf⟩

lemma run_map (f : α → β) (x : Eval α) (s : Session) :
    (f <$> x).run s = (x.run s).map fun (r, t) => (r.map f, t) := by
  change (x >>= fun a => pure (f a)).run s = _
  rw [run_bind]
  cases x.run s with
  | none => rfl
  | some p =>
      obtain ⟨r, t⟩ := p
      cases r <;> rfl

lemma run_map_eq_error {f : α → β} {e : Failure} :
    (f <$> x).run s = some (.error e, t) ↔ x.run s = some (.error e, t) := by
  rw [map_eq_pure_bind, run_bind_eq_error]
  simp

lemma run_onHost {run : Host → Option (Except Failure α × Host)} {r : Except Failure α}
    {h : Host} (hrun : run s.host = some (r, h)) :
    (onHost run).run s = some (r, { s with host := h }) := by
  change (run s.host).map _ = _
  rw [hrun]
  rfl

lemma run_onHost_eq_ok {run : Host → Option (Except Failure α × Host)} {a : α} :
    (onHost run).run s = some (.ok a, t) ↔
      ∃ h, run s.host = some (.ok a, h) ∧ t = { s with host := h } := by
  constructor
  · intro hrun
    obtain ⟨⟨r, h⟩, hhost, heq⟩ := Option.map_eq_some_iff.mp hrun
    cases heq
    exact ⟨h, hhost, rfl⟩
  · rintro ⟨h, hhost, rfl⟩
    exact run_onHost hhost

lemma run_outcome {r : Except Failure α} (h : x.run s = some (r, t)) :
    (outcome x).run s = some (.ok r, t) := by
  change (x.run s).map _ = _
  rw [h]
  rfl

lemma run_within (s : Session) (frame : Frame) {r : Except Failure α}
    (h : x.run { s with frames := frame :: s.frames } = some (r, t)) :
    (within frame x).run s = some (r, { t with frames := t.frames.tail }) := by
  change (x.run { s with frames := frame :: s.frames }).map _ = _
  rw [h]
  rfl

end Eval

/-! ### The run of a text -/

lemma expressions_eq_ok_iff {sc : Scope} {text : String} {es : List Node} :
    sc.expressions text = .ok es ↔ Parses sc.functions.isName text es := by
  unfold Scope.expressions Parses
  cases tokenize sc.functions.isName text with
  | error e => simp
  | ok tokens =>
      simp only [Except.ok.injEq, exists_eq_left']
      split <;> simp_all

/-- A text that is parsed runs as its expressions are evaluated. -/
lemma run_of_parses {sc : Scope} {text : String} {es : List Node}
    (h : Parses sc.functions.isName text es) (s : Session) :
    (sc.run text).run s = (sc.eval es).run s := by
  rw [Scope.run, expressions_eq_ok_iff.mpr h, Eval.run_bind_ok (Eval.run_ofExcept _ s)]

/-- A call of a registered function evaluates the arguments in a frame of its own. -/
lemma evalTop_call {sc : Scope} {name source : String} {args : List Node}
    {entry : RegistryEntry Callable} (h : sc.functions.lookup name = some entry) :
    sc.evalTop (.call name source args) =
      Eval.within ⟨if source.isEmpty then "@" ++ name else source, []⟩
        (sc.evalArguments entry.wantsParams args >>= sc.invoke name entry) := by
  have hdispatch : sc.evalTop (.call name source args) =
      sc.dispatch name source fun wants => sc.evalArguments wants args := rfl
  rw [hdispatch, Scope.dispatch, h]

/-- A host without environment and entropy, on the first day of a year, to which nothing has
happened. -/
def Host.blank : Host where
  environment := []
  now := ⟨(Day.of? 2000 1 1).getD Day.first, Clock.midnight⟩
  random := 0
  entropy := []
  journal := []
  counter := 0
  diagnostics := []

end Sigil
