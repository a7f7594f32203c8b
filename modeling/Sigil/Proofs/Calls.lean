/-
# The calls of a text

Only the functions that a call word names are ever called.  The expressions of a text call them in
order: the functions of the arguments of a call before that of the call itself.  `TextOver W` says
that all call words of a text are of the kind `W`, and `textCalls` lists what it calls.

A value is interpreted string by string, of an entry the value before the key, and
`Value.strings` lists its strings in this order.
-/
import Sigil.Globals.Resolve
import Sigil.Interpreter.Basic
import Sigil.Proofs.Templates

namespace Sigil

/-! ### The calls of a text -/

/-- A call word that the scanner can cut. -/
def CallWord (functions : Functions) (w : String) : Prop :=
  isCallWord functions.isName w.toList ∧ ∀ c ∈ w.toList.tail, isWordChar c

mutual

/-- The call words in the expression are of this kind, and name what is called. -/
inductive Node.Over (W : String → Prop) : Node → Prop
  | text {s : String} : Node.Over W (.text s)
  | number {s : String} : Node.Over W (.number s)
  | string {s : String} : Node.Over W (.string s)
  | ident {name : String} : Node.Over W (.ident name)
  | call {w : String} {args : List Node} : W w → Node.AllOver W args →
      Node.Over W (.call (calledName w) w args)

/-- The call words in the expressions are of this kind, and name what is called. -/
inductive Node.AllOver (W : String → Prop) : List Node → Prop
  | nil : Node.AllOver W []
  | cons {e : Node} {es : List Node} : Node.Over W e → Node.AllOver W es → Node.AllOver W (e :: es)

end

namespace Grammar

/-- The call words among the tokens are of this kind. -/
def WordsIn (W : String → Prop) (ts : List Token) : Prop := ∀ t ∈ ts, t.kind = .call → W t.text

section

variable {W : String → Prop}

lemma WordsIn.right {ts us : List Token} (h : WordsIn W (ts ++ us)) : WordsIn W us :=
  fun t ht => h t (List.mem_append_right ts ht)

lemma WordsIn.tail {t : Token} {ts : List Token} (h : WordsIn W (t :: ts)) : WordsIn W ts :=
  fun u hu => h u (List.mem_cons_of_mem t hu)

lemma Argument.wordsIn {ts rest : List Token} {e : Node} (h : Argument ts e rest)
    (hts : WordsIn W ts) : WordsIn W rest := by
  obtain ⟨seg, rfl, -⟩ := h.frame
  exact hts.right

lemma Call.wordsIn {ts rest : List Token} {e : Node} (h : Call ts e rest) (hts : WordsIn W ts) :
    WordsIn W rest := by
  obtain ⟨seg, c, -, rfl, -⟩ := h.frame
  exact hts.right.tail

mutual

lemma Argument.over {ts rest : List Token} {e : Node} (h : Argument ts e rest)
    (hts : WordsIn W ts) : e.Over W :=
  match h with
  | .number _ => .number
  | .string _ => .string
  | .name _ _ => .ident
  | .word _ _ _ => .text
  | .callWord _ _ => .text
  | .call hc => hc.over hts
  | .group _ _ ha _ _ => ha.over hts.tail.right

lemma Call.over {ts rest : List Token} {e : Node} (h : Call ts e rest) (hts : WordsIn W ts) :
    e.Over W :=
  match h with
  | .empty hw _ _ _ => .call (hts _ (by simp) hw) .nil
  | .arguments hw _ has => .call (hts _ (by simp) hw) (has.allOver hts.tail.tail)

lemma Arguments.allOver {ts rest : List Token} {es : List Node} (h : Arguments ts es rest)
    (hts : WordsIn W ts) : Node.AllOver W es :=
  match h with
  | .last _ ha _ _ => .cons (ha.over hts.right) .nil
  | .more _ ha _ _ has => .cons (ha.over hts.right)
      (has.allOver (ha.wordsIn hts.right).right.tail)

end

lemma Program.allOver {ts : List Token} {es : List Node} (h : Program ts es)
    (hts : WordsIn W ts) : Node.AllOver W es := by
  induction h with
  | done => exact .nil
  | call hc _ ih => exact .cons (hc.over hts) (ih (hc.wordsIn hts))
  | number _ _ ih => exact .cons .number (ih (hts.tail))
  | text _ _ _ _ ih => exact .cons .text (ih (hts.tail))
  | joined _ _ _ ih =>
      cases ih (hts.tail) with
      | cons _ hes => exact .cons .text hes

end

end Grammar

/-- The call words in the expressions of a text are among those that the scanner can cut. -/
lemma Parses.allOver {functions : Functions} {text : String} {es : List Node}
    (h : Parses functions.isName text es) : Node.AllOver (CallWord functions) es := by
  obtain ⟨ps, hcut, hp⟩ := parses_iff.mp h
  refine hp.allOver fun t ht hkind => ?_
  obtain ⟨p, hmem, htext⟩ := mem_place ht
  obtain ⟨depth, c, s, hform⟩ := hcut.form _ hmem
  dsimp only at hform
  rw [hkind] at hform
  rw [CallWord, htext, String.toList_ofList]
  exact hform.call_word

/-- The call words of a text, if it is parsed, are of this kind. -/
def TextOver (W : String → Prop) (functions : Functions) (text : String) : Prop :=
  ∀ es, Parses functions.isName text es → Node.AllOver W es

lemma textOver_callWord (functions : Functions) (text : String) :
    TextOver (CallWord functions) functions text := fun _ h => h.allOver

mutual

lemma Node.Over.mono {W W' : String → Prop} (hW : ∀ w, W w → W' w) {e : Node} (h : e.Over W) :
    e.Over W' :=
  match h with
  | .text => .text
  | .number => .number
  | .string => .string
  | .ident => .ident
  | .call hw hargs => .call (hW _ hw) (hargs.mono hW)

lemma Node.AllOver.mono {W W' : String → Prop} (hW : ∀ w, W w → W' w) {es : List Node}
    (h : Node.AllOver W es) : Node.AllOver W' es :=
  match h with
  | .nil => .nil
  | .cons he hes => .cons (he.mono hW) (hes.mono hW)

end

lemma TextOver.mono {W W' : String → Prop} {functions : Functions} {text : String}
    (h : TextOver W functions text) (hW : ∀ w, W w → W' w) : TextOver W' functions text :=
  fun es hes => (h es hes).mono hW

/-- The word names only functions of this kind. -/
def Names (P : RegistryEntry Callable → Prop) (functions : Functions) (w : String) : Prop :=
  ∀ entry, functions.lookup (calledName w) = some entry → P entry

/-- The functions that a text calls, if it is parsed, are of this kind. -/
def CallsOnly (P : RegistryEntry Callable → Prop) (functions : Functions) (text : String) : Prop :=
  TextOver (Names P functions) functions text

lemma callsOnly_of_forall {P : RegistryEntry Callable → Prop} {functions : Functions}
    (h : ∀ entry ∈ functions.entries, P entry) (text : String) : CallsOnly P functions text :=
  (textOver_callWord functions text).mono fun _ _ entry hentry =>
    h entry (List.mem_of_find?_eq_some hentry)

mutual

/-- The names of the functions that an expression calls, those of the arguments of a call before
that of the call. -/
def Node.calls (functions : Functions) : Node → List String
  | .call name _ args =>
    Node.callsAll functions args ++ ((functions.lookup name).map (·.name)).toList
  | _ => []

/-- The names of the functions that expressions call, from left to right. -/
def Node.callsAll (functions : Functions) : List Node → List String
  | [] => []
  | e :: es => e.calls functions ++ Node.callsAll functions es

end

/-- The interpreter of templates that has no result. -/
def Reentry.never : Reentry := fun _ _ _ => none

/-- The names of the functions that a text calls, none if it is not parsed. -/
def textCalls (functions : Functions) (text : String) : List String :=
  match Scope.expressions ⟨functions, [], .never⟩ text with
  | .ok es => Node.callsAll functions es
  | .error _ => []

lemma textCalls_of_parses {functions : Functions} {text : String} {es : List Node}
    (h : Parses functions.isName text es) :
    textCalls functions text = Node.callsAll functions es := by
  have hes : Scope.expressions ⟨functions, [], .never⟩ text = .ok es := expressions_eq_ok_iff.mpr h
  rw [textCalls, hes]

lemma Literals.callsAll {ls : List Node} {cs : List Char} (h : Literals ls cs)
    (functions : Functions) : Node.callsAll functions ls = [] := by
  induction h with
  | nil => rfl
  | text _ ih => exact ih
  | number _ ih => exact ih

/-- A text without a sigil calls nothing. -/
lemma textCalls_of_free (functions : Functions) {text : String} (h : sigil ∉ text.toList) :
    textCalls functions text = [] := by
  have hproper : (⟨text, []⟩ : Template).Proper functions.isName := ⟨h, by simp⟩
  obtain ⟨ls, es, hparse, hls, hes⟩ := hproper.parses
  cases hes with
  | nil =>
      have htext : (⟨text, []⟩ : Template).text = text := by
        simp [Template.text, Template.fill, Template.fillParts]
      rw [htext, List.append_nil] at hparse
      rw [textCalls_of_parses hparse, hls.callsAll]

/-! ### The strings of a value -/

/-- A string inside a value. -/
structure Slot where
  /-- The string. -/
  text : String
  /-- The string is a key of a mapping. -/
  isKey : Bool

namespace Value

/-- The string that a key is, if it is one. -/
def keySlots : Value → List Slot
  | .text s => [⟨s, true⟩]
  | _ => []

mutual

/-- The strings of a value in the order in which they are interpreted. -/
def slots : Value → List Slot
  | .text s => [⟨s, false⟩]
  | .list items => itemSlots items
  | .tuple items => itemSlots items
  | .mapping entries => entrySlots entries
  | _ => []

/-- The strings of items, item by item. -/
def itemSlots : List Value → List Slot
  | [] => []
  | v :: rest => slots v ++ itemSlots rest

/-- The strings of entries, of each entry those of the value before the key. -/
def entrySlots : List (Value × Value) → List Slot
  | [] => []
  | (key, v) :: rest => slots v ++ (keySlots key ++ entrySlots rest)

end

/-- The strings of a value in the order in which they are interpreted. -/
def strings (v : Value) : List String := v.slots.map (·.text)

end Value

/-! ### The texts of a call -/

namespace Globals

/-- The texts of the values that have to be expanded. -/
def deferredTexts (rs : List (Value × Resolution)) : List String :=
  rs.filterMap fun (_, r) => match r with
    | .value _ => none
    | .deferred v => (Json.render .compact v).toOption

lemma deferredTexts_cons {v : Value} {text : String} (h : Json.render .compact v = .ok text)
    (key : Value) (rs : List (Value × Resolution)) :
    deferredTexts ((key, .deferred v) :: rs) = text :: deferredTexts rs := by
  simp [deferredTexts, h, Except.toOption]

/-- The texts of the global values that have to be expanded, none if an entry cannot be
resolved. -/
def jsonTexts (globals : Entries) : List String :=
  match resolutions globals with
  | .ok rs => deferredTexts rs
  | .error _ => []

end Globals

namespace Options

/-- Values of any size are interpreted. -/
def Unlimited (options : Options) : Prop := options.maxSize.isTruthy = false

lemma unlimited_standard : standard.Unlimited := rfl

lemma Unlimited.tooLarge {options : Options} (h : options.Unlimited) (v : Value) :
    options.tooLarge v = .ok false :=
  if_neg (Bool.not_eq_true _ ▸ h)

/-- The strings of local parameters that are interpreted: all of them unless they are too large. -/
def localStrings (options : Options) (locals : Value) : List String :=
  match options.tooLarge locals with
  | .ok false => locals.strings
  | _ => []

lemma Unlimited.localStrings {options : Options} (h : options.Unlimited) (locals : Value) :
    options.localStrings locals = locals.strings := by
  rw [Options.localStrings, h.tooLarge]

end Options

/-- The texts that a plan evaluates, in order: those of the local parameters, of the global values
that have to be expanded, and of the value. -/
def Plan.texts (value locals : Value) : Plan → List String
  | .skip _ => []
  | .proceed options globals =>
    options.localStrings locals ++ (Globals.jsonTexts globals ++ value.strings)

namespace Request

variable {r : Request} {options : Options} {store : Globals.Store}

/-- The global values in force in a call, none if new ones cannot be merged. -/
def globals (r : Request) (options : Options) (store : Globals.Store) : Entries :=
  ((store.enter options r.newGlobals).1.toOption).getD []

/-- The texts of a call that interprets values of any size, in order. -/
def texts (r : Request) (options : Options) (store : Globals.Store) : List String :=
  r.locals.strings ++ (Globals.jsonTexts (r.globals options store) ++ r.value.strings)

/-- A value that is not too large is interpreted with the global values in force. -/
lemma plan_of_tooLarge (hoptions : r.options = .ok options)
    (hsize : options.tooLarge r.value = .ok false) (store : Globals.Store) :
    r.plan store = ((store.enter options r.newGlobals).1.map (.proceed options),
      (store.enter options r.newGlobals).2) := by
  simp only [plan, hoptions, hsize]

lemma plan_of_unlimited (hoptions : r.options = .ok options) (hoff : options.Unlimited)
    (store : Globals.Store) :
    (r.plan store).1 = (store.enter options r.newGlobals).1.map (.proceed options) := by
  rw [plan_of_tooLarge hoptions (hoff.tooLarge _)]

/-- The texts of a call are those of its plan. -/
lemma texts_eq (hoptions : r.options = .ok options) (hoff : options.Unlimited) {p : Plan}
    (hplan : (r.plan store).1 = .ok p) : p.texts r.value r.locals = r.texts options store := by
  rw [plan_of_unlimited hoptions hoff] at hplan
  obtain ⟨globals, hglobals, rfl⟩ := except_map_eq_ok.mp hplan
  rw [Plan.texts, hoff.localStrings, texts, Request.globals, hglobals]
  rfl

end Request

end Sigil
