/-
# Resolving and layering, step by step

Entries of global values are resolved on their own, and each deferred value is expanded with the
plain values overlaid by the local parameters.  A layering is therefore the interpretation of the
local parameters, followed by these expansions.
-/
import Sigil.Proofs.Parametricity

namespace Sigil

open Eval

namespace Globals

/-- Each entry is resolved on its own. -/
def ResolvesTo (e : Value × Value) (r : Value × Resolution) : Prop :=
  r.1 = e.1 ∧ resolveEntry e.1 e.2 = .ok r.2

variable {globals : Entries} {rs : List (Value × Resolution)}

lemma resolutions_eq_ok (h : resolutions globals = .ok rs) :
    List.Forall₂ ResolvesTo globals rs := by
  induction globals generalizing rs with
  | nil =>
      cases h
      exact .nil
  | cons e rest ih =>
      obtain ⟨r, hr, h⟩ := except_bind_eq_ok.mp h
      obtain ⟨more, hmore, h⟩ := except_bind_eq_ok.mp h
      cases h
      exact .cons ⟨rfl, hr⟩ (ih hmore)

lemma problem_ne_ok {α : Type} (key : Value) (text : String) (a : α) :
    problem key text ≠ .ok a := by
  intro h
  obtain ⟨shown, -, h⟩ := except_bind_eq_ok.mp h
  cases h

/-- The key of an entry matters only if the entry is not resolved. -/
lemma resolveEntry_congr {key entry : Value} {r : Resolution} (h : resolveEntry key entry = .ok r)
    (other : Value) : resolveEntry other entry = .ok r := by
  unfold resolveEntry at h ⊢
  cases hformat : format? entry with
  | none => simpa only [hformat] using h
  | some p =>
      simp only [hformat] at h ⊢
      obtain ⟨name, hname, h⟩ := except_bind_eq_ok.mp h
      refine except_bind_eq_ok.mpr ⟨name, hname, ?_⟩
      split_ifs at h ⊢ <;> first
        | exact h
        | obtain ⟨shown, -, h⟩ := except_bind_eq_ok.mp h
          exact absurd h (problem_ne_ok _ _ _)

lemma resolvePlain_eq_ok {plain : Entries} (h : resolvePlain (.mapping globals) = .ok plain) :
    ∃ rs, resolutions globals = .ok rs ∧ plainEntries rs = plain := by
  have hsteps : (resolutions globals >>= fun rs => pure (plainEntries rs)) = .ok plain := h
  obtain ⟨rs, hrs, hplain⟩ := except_bind_eq_ok.mp hsteps
  exact ⟨rs, hrs, Except.ok.inj hplain⟩

lemma expandAll_of_deferredKeys (h : deferredKeys rs = []) (expand : Expander)
    (bindings : Entries) : expandAll expand bindings rs = pure (plainEntries rs) := by
  induction rs with
  | nil => rfl
  | cons r rest ih =>
      obtain ⟨key, v | v⟩ := r
      · rw [expandAll, ih h, pure_bind]
        rfl
      · simp [deferredKeys] at h

/-- The values of global values under a mapping: each text is expanded with the plain values
overlaid by the mapping. -/
lemma resolve_mapping (h : resolutions globals = .ok rs) (expand : Expander)
    (overlay : Entries) : resolve (.mapping globals) (some expand) (.mapping overlay) =
      expandAll expand (Entries.update (plainEntries rs) overlay) rs := by
  have hflatten : flatten (.mapping globals) = .ok globals := rfl
  rw [resolve, hflatten, ofExcept_ok, pure_bind, h, ofExcept_ok, pure_bind]
  dsimp only
  cases hkeys : deferredKeys rs with
  | nil => rw [expandAll_of_deferredKeys hkeys]
  | cons first more =>
      have hupper : (if (Value.mapping overlay).isTruthy then (Value.mapping overlay).toEntries
          else .ok []) = .ok overlay := by
        cases overlay <;> rfl
      dsimp only
      rw [hupper, ofFault_ok, pure_bind]

end Globals

section

variable {run : Run}

/-- Local parameters of any size are interpreted after a line of the diagnostic trace. -/
lemma run_interpretLocals {options : Options} (hoff : options.Unlimited) {locals : Entries}
    (hlocals : locals ≠ []) (bindings : Entries) (s : Session) :
    ∃ parts, (run.interpretLocals options (.mapping locals) bindings).run s =
      (run.walk bindings (.mapping locals)).run { s with host := s.host.diagnose parts } := by
  have htruthy : (Value.mapping locals).isTruthy = true := by simpa [Value.isTruthy] using hlocals
  have hitems : (Value.mapping locals).iterate = .ok locals.keys := rfl
  let parts := ["self-interpreting local params",
    ((Value.list locals.keys).shown.toOption).getD ""]
  refine ⟨parts, ?_⟩
  rw [Run.interpretLocals, if_pos htruthy, hitems, ofFault_ok, pure_bind, hoff.tooLarge, ofFault_ok]
  exact run_bind_ok (run_diagnose (fun _ => parts) s) _

/-- After the local parameters are interpreted, all that is left to do is to expand. -/
lemma run_layerBy {expand : Globals.Expander} {options : Options} {locals : Value}
    {globals resolved : Entries} {rs : List (Value × Globals.Resolution)} {s t : Session}
    (hglobals : globals ≠ []) (hrs : Globals.resolutions globals = .ok rs)
    (hlocals : (run.interpretLocals options locals (Globals.plainEntries rs)).run s =
      some (.ok (.mapping resolved), t)) :
    (run.layerBy expand options locals globals).run s =
      ((fun out => Entries.update out resolved) <$> Globals.expandAll expand
        (Entries.update (Globals.plainEntries rs) resolved) rs).run t := by
  have hplain : Globals.resolvePlain (.mapping globals) = .ok (Globals.plainEntries rs) :=
    except_bind_eq_ok.mpr ⟨globals, rfl, except_bind_eq_ok.mpr ⟨rs, hrs, rfl⟩⟩
  rw [Run.layerBy, if_neg (by simpa using hglobals), hplain, ofExcept_ok, pure_bind,
    run_bind_ok hlocals, Globals.resolve_mapping hrs, map_eq_pure_bind]
  rfl

end

end Sigil
