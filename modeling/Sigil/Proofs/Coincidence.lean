/-
# Evaluation sees only the names of the text

Parameters reach an evaluation by two ways: a bare name is looked up in them, and a function that
wants them gets them all.  So two lists of parameters that bind the names of a text alike give its
evaluation the same end, as long as it calls no function that wants the parameters.  A name that has
no value is the only reason for an evaluation to fail as undefined.
-/
import Sigil.Proofs.Calls
import Sigil.Proofs.Traces

namespace Sigil

/-! ### The names in a text -/

mutual

/-- The bare names in an expression at every depth, from left to right. -/
def Node.idents : Node → List String
  | .ident name => [name]
  | .call _ _ args => Node.identsAll args
  | _ => []

/-- The bare names in several expressions at every depth. -/
def Node.identsAll : List Node → List String
  | [] => []
  | e :: es => e.idents ++ Node.identsAll es

end

lemma Node.identsAll_eq_flatMap (es : List Node) : Node.identsAll es = es.flatMap Node.idents := by
  induction es with
  | nil => rfl
  | cons e es ih => rw [Node.identsAll, ih, List.flatMap_cons]

lemma Node.idents_subset_identsAll {e : Node} {es : List Node} (h : e ∈ es) :
    e.idents ⊆ Node.identsAll es := by
  rw [Node.identsAll_eq_flatMap]
  exact fun name hname => List.mem_flatMap.mpr ⟨e, h, hname⟩

/-- The bare names in a text at every depth, none if it is not parsed. -/
def textIdents (functions : Functions) (text : String) : List String :=
  match Scope.expressions ⟨functions, [], .never⟩ text with
  | .ok es => Node.identsAll es
  | .error _ => []

lemma textIdents_of_parses {functions : Functions} {text : String} {es : List Node}
    (h : Parses functions.isName text es) : textIdents functions text = Node.identsAll es := by
  have hes : Scope.expressions ⟨functions, [], .never⟩ text = .ok es := expressions_eq_ok_iff.mpr h
  rw [textIdents, hes]

/-! ### Parameters that agree -/

/-- Two lists of parameters bind these names alike: to the same values, or not at all. -/
def Entries.AgreeOn (names : List String) (p q : Entries) : Prop :=
  ∀ name ∈ names, Entries.getText? p name = Entries.getText? q name

namespace Entries.AgreeOn

variable {names more : List String} {p q : Entries}

lemma left (h : AgreeOn (names ++ more) p q) : AgreeOn names p q :=
  fun name hname => h name (List.mem_append_left more hname)

lemma right (h : AgreeOn (names ++ more) p q) : AgreeOn more p q :=
  fun name hname => h name (List.mem_append_right names hname)

end Entries.AgreeOn

/-- The entry does not want the parameters. -/
def RegistryEntry.Plain (entry : RegistryEntry Callable) : Prop := entry.wantsParams = false

namespace Scope

section

variable {functions : Functions} {p q : Entries} {reenter : Reentry}

lemma lookup_congr {name : String} (h : Entries.getText? p name = Entries.getText? q name) :
    Scope.lookup ⟨functions, p, reenter⟩ name = Scope.lookup ⟨functions, q, reenter⟩ name := by
  rw [Scope.lookup, Scope.lookup, h]

/-- A function that does not want the parameters is called without them. -/
lemma invoke_congr {entry : RegistryEntry Callable} (h : entry.Plain) (name : String)
    (args : List Value) : Scope.invoke ⟨functions, p, reenter⟩ name entry args =
      Scope.invoke ⟨functions, q, reenter⟩ name entry args := by
  rw [RegistryEntry.Plain] at h
  simp only [Scope.invoke, h, Bool.false_eq_true, if_false]

lemma argument_unwanted (sc : Scope) (node : Node) :
    sc.argument false node = stripQuotes <$> sc.evalNode node :=
  argument_eval sc (by simp)

mutual

/-- An expression has one evaluation under parameters that agree on its names. -/
lemma evalNode_congr {e : Node} (h : e.Over (Names (·.Plain) functions))
    (hpq : Entries.AgreeOn e.idents p q) : Scope.evalNode ⟨functions, p, reenter⟩ e =
      Scope.evalNode ⟨functions, q, reenter⟩ e :=
  match h with
  | .text | .string | .number => by rw [evalNode, evalNode]
  | .ident => by
      rw [evalNode, evalNode]
      exact lookup_congr (hpq _ (by simp [Node.idents]))
  | .call (w := w) hw hargs => by
      cases hentry : functions.lookup (calledName w) with
      | none => rw [evalNode_call_of_none hentry, evalNode_call_of_none hentry]
      | some entry =>
          -- the function gets no parameters, so that the call sees them in its arguments alone
          have hplain : entry.Plain := hw entry hentry
          rw [evalNode_call hentry, evalNode_call hentry, hplain,
            evalArguments_congr hargs hpq, funext (invoke_congr hplain _)]

/-- Arguments of a function that does not want the parameters are all evaluated. -/
lemma evalArguments_congr {args : List Node} (h : Node.AllOver (Names (·.Plain) functions) args)
    (hpq : Entries.AgreeOn (Node.identsAll args) p q) :
    Scope.evalArguments ⟨functions, p, reenter⟩ false args =
      Scope.evalArguments ⟨functions, q, reenter⟩ false args :=
  match h with
  | .nil => by rw [evalArguments, evalArguments]
  | .cons he hes => by
      rw [evalArguments_cons, evalArguments_cons, argument_unwanted, argument_unwanted,
        evalNode_congr he hpq.left, evalArguments_congr hes hpq.right]

end

lemma evalTop_congr {e : Node} (h : e.Over (Names (·.Plain) functions))
    (hpq : Entries.AgreeOn e.idents p q) : Scope.evalTop ⟨functions, p, reenter⟩ e =
      Scope.evalTop ⟨functions, q, reenter⟩ e := by
  by_cases hnumber : ∀ s, e ≠ .number s
  · rw [evalTop_of_ne_number hnumber, evalTop_of_ne_number hnumber, evalNode_congr h hpq]
  · obtain ⟨s, rfl⟩ : ∃ s, e = .number s := by simpa using hnumber
    rfl

lemma evalJoined_congr {es : List Node} (h : Node.AllOver (Names (·.Plain) functions) es)
    (hpq : Entries.AgreeOn (Node.identsAll es) p q) :
    Scope.evalJoined ⟨functions, p, reenter⟩ es = Scope.evalJoined ⟨functions, q, reenter⟩ es := by
  induction es with
  | nil => rfl
  | cons e es ih =>
      cases h with
      | cons he hes =>
          rw [evalJoined_eq_bind, evalJoined_eq_bind, evalTop_congr he hpq.left, ih hes hpq.right]

lemma eval_congr {es : List Node} (h : Node.AllOver (Names (·.Plain) functions) es)
    (hpq : Entries.AgreeOn (Node.identsAll es) p q) :
    Scope.eval ⟨functions, p, reenter⟩ es = Scope.eval ⟨functions, q, reenter⟩ es := by
  by_cases hlength : es.length = 1
  · obtain ⟨e, rfl⟩ := List.length_eq_one_iff.mp hlength
    cases h with
    | cons he _ => rw [eval_singleton, eval_singleton, evalTop_congr he hpq.left]
  · rw [eval_of_length_ne_one hlength, eval_of_length_ne_one hlength, evalJoined_congr h hpq]

end

/-! ### Undefined names -/

/-- The names that have a value without being parameters: the two constants and the names of
environment variables. -/
def Predefined (name : String) : Prop :=
  name = "pi" ∨ name = "e" ∨ "ENV_".toList <+: name.toList

variable {sc : Scope}

lemma not_lacks {name : String}
    (h : (Entries.getText? sc.params name).isSome ∨ Predefined name) : ¬ sc.Lacks name := by
  rintro ⟨hparams, hconstants, henvironment⟩
  rcases h with hsome | rfl | rfl | hmark
  · rw [hparams] at hsome
    cases hsome
  · cases hconstants
  · cases hconstants
  · have hmarked : environmentMark.isPrefixOf name.toList := List.isPrefixOf_iff_prefix.mpr hmark
    simp [environmentName?, hmarked] at henvironment

/-- The error of a function is never that of a name without value. -/
lemma callFailure_ne_undefined (function : String) (args : List Value) (frames : List Frame)
    (cause : Failure) (name : String) (site : Option Site) :
    callFailure function args frames cause ≠ .undefined name site := by
  obtain ⟨trace, h⟩ | ⟨f, h⟩ := callFailure_cases function args frames cause <;> rw [h] <;>
    exact nofun

/-- Where the names of an expression have values, it breaks down for another reason. -/
lemma Breaks.failure_ne_undefined {node : Node} {h h' : Host} {path : List Frame}
    {b : Breakdown} (hbreak : sc.Breaks node h path b h')
    (hnames : ∀ name ∈ node.idents, ¬ sc.Lacks name) (frames : List Frame) (name : String)
    (site : Option Site) : b.failure frames ≠ .undefined name site := by
  induction hbreak with
  | raised => exact callFailure_ne_undefined _ _ _ _ _ _
  | argument _ _ _ _ ih =>
      refine ih fun name hname => hnames name ?_
      rw [Node.idents]
      exact Node.idents_subset_identsAll (by simp) hname
  | unregistered => exact nofun
  | undefined hlacks => exact absurd hlacks (hnames _ (by simp [Node.idents]))
  | number => exact nofun
  | foreign => exact nofun

lemma EvalBreaks.failure_ne_undefined {nodes : List Node} {h h' : Host} {path : List Frame}
    {b : Breakdown} (hbreak : sc.EvalBreaks nodes h path b h')
    (hnames : ∀ name ∈ Node.identsAll nodes, ¬ sc.Lacks name) (frames : List Frame)
    (name : String) (site : Option Site) : b.failure frames ≠ .undefined name site := by
  cases hbreak with
  | node _ _ hbreak =>
      exact hbreak.failure_ne_undefined
        (fun name hname => hnames name (Node.idents_subset_identsAll (by simp) hname)) _ _ _
  | joining => exact nofun

/-- A text that is not parsed does not fail for a name. -/
lemma ne_undefined_of_expressions {text : String} {e : Failure}
    (h : sc.expressions text = .error e) (name : String) (site : Option Site) :
    e ≠ .undefined name site := by
  unfold Scope.expressions at h
  split at h
  · cases h
    exact nofun
  · split at h <;> cases h <;> exact nofun

end Scope

/-- **Evaluation sees only the names of the text.**  Let all functions that a text calls be ones
that do not want the parameters.  Then under any two lists of parameters that agree on the names in
the text its runs end alike from every session: with the same value or the same error, and with the
same host.  And where each name is that of a parameter, of a constant or of an environment variable,
no run of the text fails for a name without value. -/
theorem run_sees_named_params (functions : Functions) (reenter : Reentry) (text : String) :
    (∀ p q, CallsOnly (·.Plain) functions text →
      Entries.AgreeOn (textIdents functions text) p q →
        Scope.run ⟨functions, p, reenter⟩ text = Scope.run ⟨functions, q, reenter⟩ text) ∧
      ∀ p, (∀ name ∈ textIdents functions text,
          (Entries.getText? p name).isSome ∨ Scope.Predefined name) →
        ∀ s e t, (Scope.run ⟨functions, p, reenter⟩ text).run s = some (.error e, t) →
          ∀ name site, e ≠ .undefined name site := by
  refine ⟨fun p q hplain hpq => ?alike, fun p hnames s e t hrun name site => ?defined⟩
  case alike =>
    have hexpressions : Scope.expressions ⟨functions, p, reenter⟩ text =
        Scope.expressions ⟨functions, q, reenter⟩ text := rfl
    rw [Scope.run, Scope.run, hexpressions]
    cases hes : Scope.expressions ⟨functions, q, reenter⟩ text with
    | error e => rw [Eval.ofExcept_error_bind, Eval.ofExcept_error_bind]
    | ok es =>
        have hparse : Parses functions.isName text es := expressions_eq_ok_iff.mp hes
        rw [textIdents_of_parses hparse] at hpq
        rw [Eval.ofExcept_ok, pure_bind, pure_bind, Scope.eval_congr (hplain es hparse) hpq]
  case defined =>
    set sc : Scope := ⟨functions, p, reenter⟩
    obtain hes | ⟨es, path, b, _, hparse, hbreak, rfl⟩ := Scope.failure_of_run hrun
    · exact Scope.ne_undefined_of_expressions hes name site
    · have hidents : textIdents functions text = Node.identsAll es := textIdents_of_parses hparse
      rw [hidents] at hnames
      have hvalues : ∀ name ∈ Node.identsAll es, ¬ sc.Lacks name :=
        fun name hname => Scope.not_lacks (hnames name hname)
      exact hbreak.failure_ne_undefined hvalues _ name site

/-- The names of nested calls are those of a parameter, of a constant and of an environment
variable; what the parameters bind besides is not seen. -/
theorem run_sees_named_params_nested :
    let functions := listScope.functions
    let text := "@list(user, @list(pi, ENV_HOME))"
    let p : Entries := [(.text "user", .text "u"), (.text "secret", .int 1)]
    let q : Entries := [(.text "secret", .int 2), (.text "user", .text "u")]
    textIdents functions text = ["user", "pi", "ENV_HOME"] ∧
      Scope.run ⟨functions, p, .never⟩ text = Scope.run ⟨functions, q, .never⟩ text ∧
      (Scope.run ⟨functions, p, .never⟩ text).run ⟨Host.blank, []⟩ = some (.ok (.list [.text "u",
        .list [.float 3.141592653589793, .text ""]]), ⟨Host.blank, []⟩) ∧
      ∀ s e t, (Scope.run ⟨functions, p, .never⟩ text).run s = some (.error e, t) →
        ∀ name site, e ≠ .undefined name site := by
  intro functions text p q
  have hparse : Parses functions.isName text [.call "list" "@list" [.ident "user",
      .call "list" "@list" [.ident "pi", .ident "ENV_HOME"]]] := except_map_eq_ok.mp (by cbv)
  have hidents : textIdents functions text = ["user", "pi", "ENV_HOME"] :=
    textIdents_of_parses hparse
  have hplain : CallsOnly (·.Plain) functions text :=
    callsOnly_of_forall (by simp [functions, listScope, RegistryEntry.Plain]) text
  have hagree : Entries.AgreeOn (textIdents functions text) p q := by
    rw [hidents]
    intro name hname
    fin_cases hname <;> rfl
  have hnames : ∀ name ∈ textIdents functions text,
      (Entries.getText? p name).isSome ∨ Scope.Predefined name := by
    rw [hidents]
    intro name hname
    fin_cases hname
    · exact .inl rfl
    · exact .inr (.inl rfl)
    · exact .inr (.inr (.inr (by decide)))
  obtain ⟨hruns, hdefined⟩ := run_sees_named_params functions .never text
  refine ⟨hidents, hruns p q hplain hagree, ?_, hdefined p hnames⟩
  have hparsed : Parses (Scope.functions ⟨functions, p, .never⟩).isName text _ := hparse
  rw [run_of_parses hparsed]
  rfl

end Sigil
