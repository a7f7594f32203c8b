/-
# Failures that are not located

Only a run over a value locates failures.  Before that, whatever fails in cutting, parsing and
calling, and in merging and resolving global values, fails without a place.  Such a failure has a
wording: what a function fails with need not have one, but does not leave its call.
-/
import Sigil.Interpreter.Basic
import Sigil.Proofs.Outcome

namespace Sigil

/-- The failure is not located, and asking for its wording is no fault. -/
def Failure.Fresh (e : Failure) : Prop := e.site? = none ∧ e.wordingFault? = none

/-- If the step fails, its failure is not located. -/
def NotLocated {α : Type} (r : Except Failure α) : Prop := ∀ e, r = .error e → e.Fresh

section

variable {α β : Type} {x : Except Failure α} {f : α → Except Failure β}

lemma notLocated_ok (a : α) : NotLocated (.ok a) := failsOnly_ok a

lemma notLocated_fault (r : Except Fault α) : NotLocated (r.mapError .fault) := by
  intro e h
  obtain ⟨f, -, rfl⟩ := except_mapError_eq_error.mp h
  exact ⟨rfl, rfl⟩

lemma NotLocated.bind (hx : NotLocated x) (hf : ∀ a, NotLocated (f a)) : NotLocated (x >>= f) :=
  FailsOnly.bind hx hf

lemma NotLocated.map (hx : NotLocated x) (g : α → β) : NotLocated (x.map g) := FailsOnly.map hx g

end

lemma notLocated_expressions (sc : Scope) (text : String) : NotLocated (sc.expressions text) := by
  intro e h
  unfold Scope.expressions at h
  split at h
  · cases h
    exact ⟨rfl, rfl⟩
  · split at h <;> cases h <;> exact ⟨rfl, rfl⟩

/-- The failure of a call is the error that names it, or the fault of a wording. -/
lemma callFailure_cases (name : String) (args : List Value) (frames : List Frame)
    (cause : Failure) :
    (∃ trace, callFailure name args frames cause = .call name args cause trace none) ∨
      ∃ f, callFailure name args frames cause = .fault f := by
  unfold callFailure
  split
  · exact .inr ⟨_, rfl⟩
  · exact .inr ⟨_, rfl⟩
  · exact .inl ⟨_, rfl⟩

lemma fresh_callFailure (name : String) (args : List Value) (frames : List Frame)
    (cause : Failure) : (callFailure name args frames cause).Fresh := by
  obtain ⟨trace, h⟩ | ⟨f, h⟩ := callFailure_cases name args frames cause <;> rw [h] <;>
    exact ⟨rfl, rfl⟩

namespace Globals

lemma notLocated_problem {α : Type} (key : Value) (text : String) :
    NotLocated (problem key text : Except Failure α) :=
  .bind (notLocated_fault _) fun _ e h => by
    cases h
    exact ⟨rfl, rfl⟩

lemma notLocated_groupKey (group key : Value) : NotLocated (groupKey group key) :=
  .bind (notLocated_fault _) fun _ => .bind (notLocated_fault _) fun _ => notLocated_ok _

lemma notLocated_groupEntries (group : Value) (entries : Entries) :
    NotLocated (groupEntries group entries) := by
  induction entries with
  | nil => exact notLocated_ok _
  | cons e rest ih =>
      exact .bind (notLocated_groupKey group e.1) fun _ => .bind ih fun _ => notLocated_ok _

lemma notLocated_groups (entries : Entries) : NotLocated (groups entries) := by
  induction entries with
  | nil => exact notLocated_ok _
  | cons e rest ih =>
      obtain ⟨group, entries⟩ := e
      cases entries with
      | mapping inner =>
          exact .bind (notLocated_groupEntries group inner) fun _ => .bind ih fun _ =>
            notLocated_ok _
      | _ => exact .bind (notLocated_fault _) fun _ => notLocated_problem _ _

lemma notLocated_namespaces (items : List Value) : NotLocated (namespaces items) := by
  induction items with
  | nil => exact notLocated_ok _
  | cons group rest ih =>
      cases group with
      | mapping inner =>
          exact .bind (notLocated_groups inner) fun _ => .bind ih fun _ => notLocated_ok _
      | _ => exact .bind (notLocated_fault _) fun _ => notLocated_problem _ _

lemma notLocated_flatten (v : Value) : NotLocated (flatten v) := by
  unfold flatten
  split
  · exact notLocated_ok _
  · exact notLocated_ok _
  · exact (notLocated_namespaces _).map _
  · exact (notLocated_namespaces _).map _
  · exact notLocated_problem _ _

lemma notLocated_resolveEntry (key entry : Value) : NotLocated (resolveEntry key entry) := by
  unfold resolveEntry
  split
  · exact notLocated_ok _
  · refine .bind (notLocated_fault _) fun name => ?_
    dsimp only
    split_ifs
    · exact notLocated_fault _
    · exact notLocated_ok _
    · exact notLocated_ok _
    · exact .bind (notLocated_fault _) fun _ => notLocated_problem _ _

lemma notLocated_resolutions (globals : Entries) : NotLocated (resolutions globals) := by
  induction globals with
  | nil => exact notLocated_ok _
  | cons e rest ih =>
      exact .bind (notLocated_resolveEntry e.1 e.2) fun _ => .bind ih fun _ => notLocated_ok _

lemma notLocated_resolvePlain (globals : Value) : NotLocated (resolvePlain globals) :=
  .bind (notLocated_flatten globals) fun entries => .bind (notLocated_resolutions entries) fun _ =>
    notLocated_ok _

lemma Store.notLocated_mergeNew (s : Store) (new : Value) : NotLocated (s.mergeNew new) := by
  unfold mergeNew
  split
  · exact notLocated_ok _
  · exact (notLocated_flatten _).map _

lemma Store.notLocated_enter (s : Store) (options : Options) (newGlobals : Value) :
    NotLocated (s.enter options newGlobals).1 := by
  have hmerge := s.notLocated_mergeNew newGlobals
  unfold enter
  split
  · exact notLocated_ok _
  · cases hs : s.mergeNew newGlobals with
    | ok t => exact notLocated_ok _
    | error e =>
        intro e' he
        cases he
        exact hmerge e hs

end Globals

end Sigil
