/-
# The calls of a text are registered

The scanner cuts a call word only where the registry has its name.  It looks the word up as a
spelling, the parser takes its name from it, and the evaluation looks up that name as a spelling
again: a name in lower case that holds no sigil is its own spelling, so all three find the same
entry, at every depth of every expression.
-/
import Sigil.Proofs.Registration
import Sigil.Proofs.Traces

namespace Sigil

/-! ### The calls in an expression -/

mutual

/-- The calls in an expression at every depth, each by its name and its spelling. -/
def Node.heads : Node → List (String × String)
  | .call name source args => (name, source) :: Node.headsAll args
  | _ => []

/-- The calls in several expressions at every depth. -/
def Node.headsAll : List Node → List (String × String)
  | [] => []
  | e :: es => e.heads ++ Node.headsAll es

end

lemma Node.headsAll_eq_flatMap (es : List Node) : Node.headsAll es = es.flatMap Node.heads := by
  induction es with
  | nil => rfl
  | cons e es ih => rw [Node.headsAll, ih, List.flatMap_cons]

lemma Node.heads_subset_headsAll {e : Node} {es : List Node} (h : e ∈ es) :
    e.heads ⊆ Node.headsAll es := by
  rw [Node.headsAll_eq_flatMap]
  exact fun call hcall => List.mem_flatMap.mpr ⟨e, h, hcall⟩

mutual

/-- Where the call words are of a kind, so are the spellings of the calls at every depth. -/
lemma Node.Over.heads {W : String → Prop} {e : Node} (h : e.Over W) :
    ∀ call ∈ e.heads, W call.2 ∧ call.1 = calledName call.2 :=
  match h with
  | .text | .number | .string | .ident => by simp [Node.heads]
  | .call hw hargs => by
      rw [Node.heads]
      exact List.forall_mem_cons.mpr ⟨⟨hw, rfl⟩, hargs.headsAll⟩

lemma Node.AllOver.headsAll {W : String → Prop} {es : List Node} (h : Node.AllOver W es) :
    ∀ call ∈ Node.headsAll es, W call.2 ∧ call.1 = calledName call.2 :=
  match h with
  | .nil => by simp [Node.headsAll]
  | .cons he hes => by
      rw [Node.headsAll]
      exact List.forall_mem_append.mpr ⟨he.heads, hes.headsAll⟩

end

/-! ### Names -/

lemma isCallWord_spelling {isName : String → Bool} {w : String} (h : isCallWord isName w.toList) :
    Sigiled w ∧ isName (normalizeName w) := by
  unfold isCallWord at h
  split at h
  · next c cs hw =>
      rw [← hw, String.ofList_toList] at h
      exact ⟨⟨c :: cs, hw.symm⟩, h⟩
  · cases h

lemma normalizeName_of_sigiled {w : String} (h : Sigiled w) : normalizeName w = calledName w := by
  obtain ⟨cs, hcs⟩ := h
  rw [← String.toList_inj, toList_normalizeName, calledName, String.toList_ofList, ← hcs]
  rfl

/-- A call word has a name in lower case without a sigil, and the registry finds one entry under the
word and under the name. -/
lemma CallWord.registered {functions : Functions} {w : String} (h : CallWord functions w) :
    InLowerCase (calledName w) ∧ '@' ∉ (calledName w).toList ∧ ∃ entry,
      functions.lookup (calledName w) = some entry ∧ functions.lookup w = some entry := by
  obtain ⟨hsigiled, hname⟩ := isCallWord_spelling h.1
  have hspelling := normalizeName_of_sigiled hsigiled
  have hlower : InLowerCase (calledName w) := hspelling ▸ inLowerCase_normalizeName w
  have hfree : '@' ∉ (calledName w).toList := by
    rw [calledName, String.toList_ofList, Text.sigil_mem_lower, List.drop_one]
    exact fun hmem => absurd (h.2 '@' hmem) (by decide)
  -- the name has no sigil to lose and is in lower case, so it is looked up as it stands
  have hself : normalizeName (calledName w) = calledName w :=
    (normalizeName_eq_self_iff hlower).mpr fun hbegins => hfree (hbegins.subset (by simp))
  obtain ⟨entry, hentry⟩ := Option.isSome_iff_exists.mp hname
  refine ⟨hlower, hfree, entry, ?_, hentry⟩
  rw [Registry.lookup, hself, ← hspelling, hentry]

/-! ### Evaluations -/

lemma traceText_ne_empty {frames : List Frame} {trace : String} (h : traceText frames = .ok trace) :
    trace ≠ "" := by
  obtain ⟨calls, -, hjoin⟩ := except_bind_eq_ok.mp h
  rw [← Except.ok.inj hjoin]
  cases calls with
  | nil => simp [joinWith]
  | cons call calls => simp [joinWith, String.intercalate_cons_cons]

/-- The error of a function has a trace, so it is not the error of a name that is not registered. -/
lemma callFailure_ne_notRegistered (name : String) (args : List Value) (frames : List Frame)
    (cause : Failure) (other : String) :
    callFailure name args frames cause ≠ notRegistered other := by
  unfold callFailure
  split
  · exact nofun
  · exact nofun
  · next htrace _ =>
      intro heq
      exact traceText_ne_empty htrace (Failure.call.inj heq).2.2.2.1

lemma ne_notRegistered_of_expressions {sc : Scope} {text : String} {e : Failure}
    (h : sc.expressions text = .error e) (name : String) : e ≠ notRegistered name := by
  unfold Scope.expressions at h
  split at h
  · cases h
    exact nofun
  · split at h <;> cases h <;> exact nofun

namespace Scope

variable {sc : Scope}

/-- Where the calls of an expression are registered, it breaks down for another reason. -/
lemma Breaks.failure_ne_notRegistered {node : Node} {h h' : Host} {path : List Frame}
    {b : Breakdown} (hbreak : sc.Breaks node h path b h')
    (hcalls : ∀ call ∈ node.heads, sc.functions.lookup call.1 ≠ none) (frames : List Frame)
    (name : String) : b.failure frames ≠ notRegistered name := by
  induction hbreak with
  | raised => exact callFailure_ne_notRegistered _ _ _ _ _
  | argument _ _ _ _ ih =>
      refine ih fun call hcall => hcalls call ?_
      rw [Node.heads]
      exact List.mem_cons_of_mem _ (Node.heads_subset_headsAll (by simp) hcall)
  | unregistered hentry =>
      exact absurd hentry (hcalls (_, _) (by rw [Node.heads]; exact List.mem_cons_self))
  | undefined => exact nofun
  | number => exact nofun
  | foreign => exact nofun

lemma EvalBreaks.failure_ne_notRegistered {nodes : List Node} {h h' : Host} {path : List Frame}
    {b : Breakdown} (hbreak : sc.EvalBreaks nodes h path b h')
    (hcalls : ∀ call ∈ Node.headsAll nodes, sc.functions.lookup call.1 ≠ none)
    (frames : List Frame) (name : String) : b.failure frames ≠ notRegistered name := by
  cases hbreak with
  | node _ _ hbreak =>
      exact hbreak.failure_ne_notRegistered
        (fun call hcall => hcalls call (Node.heads_subset_headsAll (by simp) hcall)) frames name
  | joining => exact nofun

end Scope

/-- **Calls are registered.**  In the expressions of a text every call, at every depth, has a name
in lower case without a sigil, and the registry finds an entry under this name, the one that it
finds under the spelling of the call.  So an evaluation of the text does not fail for a name that is
not registered, whatever its functions do. -/
theorem parsed_calls_registered (functions : Functions) (text : String) :
    (∀ es, Parses functions.isName text es → ∀ call ∈ Node.headsAll es,
      InLowerCase call.1 ∧ '@' ∉ call.1.toList ∧ ∃ entry,
        functions.lookup call.1 = some entry ∧ functions.lookup call.2 = some entry) ∧
      ∀ params reenter s e t,
        (Scope.run ⟨functions, params, reenter⟩ text).run s = some (.error e, t) →
          ∀ name, e ≠ notRegistered name := by
  have hregistered (es : List Node) (hes : Parses functions.isName text es) :
      ∀ call ∈ Node.headsAll es, InLowerCase call.1 ∧ '@' ∉ call.1.toList ∧ ∃ entry,
        functions.lookup call.1 = some entry ∧ functions.lookup call.2 = some entry := by
    intro call hcall
    obtain ⟨hword, hname⟩ := hes.allOver.headsAll call hcall
    exact hname ▸ hword.registered
  refine ⟨hregistered, fun params reenter s e t hrun name => ?_⟩
  set sc : Scope := ⟨functions, params, reenter⟩
  cases hes : sc.expressions text with
  | error e' =>
      rw [Scope.run, hes, Eval.ofExcept_error_bind] at hrun
      obtain rfl : e' = e := Except.error.inj (congrArg Prod.fst (Option.some.inj hrun))
      exact ne_notRegistered_of_expressions hes name
  | ok es =>
      -- what fails breaks down at some call or joint, and there the reason is another one
      rw [Scope.run, hes, Eval.ofExcept_ok, pure_bind] at hrun
      obtain ⟨path, b, hbreak⟩ := Scope.evalBreaks_of_eval hrun
      have heq := Option.some.inj (hrun.symm.trans (hbreak.run s.frames))
      obtain rfl := Except.error.inj (congrArg Prod.fst heq)
      refine hbreak.failure_ne_notRegistered (fun call hcall => ?_) _ name
      obtain ⟨-, -, entry, hentry, -⟩ :=
        hregistered es (expressions_eq_ok_iff.mp hes) call hcall
      exact Option.ne_none_iff_exists'.mpr ⟨entry, hentry⟩

/-- The calls of a nested text are found under their names and their spellings, and its evaluation
fails with the error of the inner function. -/
theorem parsed_calls_registered_refused :
    let sc : Scope := ⟨Scope.keepAndRefuse, [], .never⟩
    let text := "@Keep(@REFUSE('x'))"
    Parses sc.functions.isName text
        [.call "keep" "@Keep" [.call "refuse" "@REFUSE" [.string "'x'"]]] ∧
      (∃ entry, sc.functions.lookup "refuse" = some entry ∧
        sc.functions.lookup "@REFUSE" = some entry) ∧
      ∃ e t, (sc.run text).run ⟨Host.blank, []⟩ = some (.error e, t) ∧
        ∀ name, e ≠ notRegistered name := by
  intro sc text
  have hparse : Parses sc.functions.isName text
      [.call "keep" "@Keep" [.call "refuse" "@REFUSE" [.string "'x'"]]] :=
    except_map_eq_ok.mp (by cbv)
  obtain ⟨hcalls, hruns⟩ := parsed_calls_registered sc.functions text
  obtain ⟨-, -, hentry⟩ :=
    hcalls _ hparse ("refuse", "@REFUSE") (by simp [Node.headsAll, Node.heads])
  have hrun : (sc.run text).run ⟨Host.blank, []⟩ = some (.error (.call "refuse" [.text "x"]
      (.fault (Fault.value "refused")) "islet call chain:\n  at @Keep()\n  at @REFUSE('x')" none),
      ⟨Host.blank, []⟩) := by
    rw [Scope.run, expressions_eq_ok_iff.mpr hparse]
    rfl
  exact ⟨hparse, hentry, _, _, hrun, hruns sc.params sc.reenter _ _ _ hrun⟩

end Sigil
