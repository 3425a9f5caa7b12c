import PagePreview.Proofs.ElementCalls
import PagePreview.Proofs.Render.Evaluated
import PagePreview.Proofs.Render.Props

/-!
# The element that lowered markup makes

Attributes are merged from left to right: each named one offers a property, each spread one those of
an object, and a later offer takes the place of an earlier one of the same name.
-/

namespace PagePreview.Script.ElementCall
open Machine Run Builtin Render

variable {s t u w : State} {c : Context} {e : Engine} {id src fuel n : Nat} {o : Object}
  {offers own : List (Str × Value)} {f : Key → Option Value}

/-- The properties behind a sequence of offers, each of which takes the place of earlier ones. -/
def merge (f : Key → Option Value) (offers : List (Str × Value)) : Key → Option Value :=
  offers.foldl (fun f offer => Function.update f (.text offer.1) (some offer.2)) f

def filled (s : State) (id : Nat) (offers : List (Str × Value)) : State :=
  { s with objects := s.objects.modify id fun o =>
      offers.foldl (fun o offer => o.store (.text offer.1) (.plain offer.2)) o }

theorem filled_cons (s : State) (id : Nat) (offer : Str × Value) (offers : List (Str × Value)) :
    filled (filled s id [offer]) id offers = filled s id (offer :: offers) := by
  unfold filled
  congr 1
  apply Array.ext_getElem?
  intro i
  simp only [Array.getElem?_modify]
  split
  · rw [Option.map_map]
    rfl
  · rfl

theorem filled_nil (s : State) (id : Nat) : filled s id [] = s := by
  unfold filled
  have same : (fun o : Object => ([] : List (Str × Value)).foldl (fun o offer => o.store (.text offer.1) (.plain offer.2)) o) =
      fun o => o := rfl
  rw [same]
  have objects : s.objects.modify id (fun o => o) = s.objects := by
    apply Array.ext_getElem?
    intro i
    simp [Array.getElem?_modify]
  rw [objects]

theorem filled_place (at_ : s.objects[id]? = some o) (holds : Holds o f) (offers : List (Str × Value)) :
    ∃ o', (filled s id offers).objects[id]? = some o' ∧ Holds o' (merge f offers) := by
  refine ⟨_, modify_here at_, ?_⟩
  clear at_
  induction offers generalizing o f with
  | nil => exact holds
  | cons offer offers ih =>
    apply ih
    exact holds.store _ _

/-- The object is a plain one with these own properties, in the order in which they are listed. -/
structure IsSpread (o : Object) (own : List (Str × Value)) : Prop where
  kind : o.kind = .plain
  keys : o.keys = own.map fun entry => .text entry.1
  values : ∀ entry ∈ own, ∃ w c, o.ownProperty? (.text entry.1) = some (.data entry.2 w true c)
  other : ∀ entry ∈ own, entry.1 ≠ .plain "__proto__"

def attributeValue (c : Context) (name : String) (value : Expr) : Run Value :=
  if isNameless value then evaluateNamed c (.plain name) value else evaluateHolding 1 c value

/-- What attributes offer to the object at `id`, one after the other, each in the state that those
before it have left behind. Nothing but the offers themselves changes that object. -/
inductive Offers (e : Engine) (c : Context) (id : Nat) : List Expr → State → List (Str × Value) → State → Prop
  | nil {s : State} : Offers e c id [] s [] s
  | named {a value : Expr} {name : String} {v : Value} {rest : List Expr} {s t u : State}
      {offers : List (Str × Value)}
      (lowering : propertyOf (m := Id) lowered.expr a = .property (propertyKey name) false false value)
      (other : name ≠ "__proto__") (evaluated : attributeValue c name value e s = .ok v t)
      (kept : t.objects[id]? = s.objects[id]?) (later : Offers e c id rest (filled t id [(.plain name, v)]) offers u) :
      Offers e c id (a :: rest) s ((.plain name, v) :: offers) u
  | spread {a value : Expr} {src : Nat} {o : Object} {rest : List Expr} {s t u : State}
      {own offers : List (Str × Value)}
      (lowering : propertyOf (m := Id) lowered.expr a = .spread value)
      (evaluated : evaluateHolding 1 c value e s = .ok (.object src) t)
      (kept : t.objects[id]? = s.objects[id]?) (apart : src ≠ id) (at_ : t.objects[src]? = some o)
      (plain : IsSpread o own) (later : Offers e c id rest (filled t id own) offers u) :
      Offers e c id (a :: rest) s (own ++ offers) u

theorem forIn_cons_ok {α β : Type} {l : List α} {a : α} {b b' : β} {f : α → β → Run (ForInStep β)}
    {r : EStateM.Result Abrupt State β} (first : f a b e s = .ok (.yield b') t)
    (rest : (forIn l b' f : Run β) e t = r) : (forIn (a :: l) b f : Run β) e s = r := by
  rw [List.forIn_cons, run_bind first]
  exact rest

theorem forIn_filled {body : Key → PUnit → Run (ForInStep PUnit)} {target : Object} (entries : List (Str × Value))
    (step : ∀ entry ∈ entries, ∀ (t : State) (target : Object) (f : Key → Option Value), t.objects[src]? = some o →
      t.objects[id]? = some target → Holds target f →
        body (.text entry.1) ⟨⟩ e t = .ok (.yield ⟨⟩) (filled t id [entry]))
    (source : s.objects[src]? = some o) (apart : src ≠ id) (at_ : s.objects[id]? = some target)
    (holds : Holds target f) :
    (forIn (entries.map fun entry => Key.text entry.1) ⟨⟩ body : Run PUnit) e s = .ok ⟨⟩ (filled s id entries) := by
  induction entries generalizing s target f with
  | nil =>
    rw [filled_nil]
    rfl
  | cons entry entries ih =>
    apply forIn_cons_ok (step entry (List.mem_cons_self ..) s target f source at_ holds)
    rw [← filled_cons s id entry entries]
    obtain ⟨target', at_', holds'⟩ := filled_place at_ holds [entry]
    have source' : (filled s id [entry]).objects[src]? = some o := modify_there (Ne.symm apart) source
    exact ih (fun entry mem => step entry (List.mem_cons_of_mem _ mem)) source' at_' holds'

theorem copyProperties_ok (plain : IsSpread o own) (source : s.objects[src]? = some o) (apart : src ≠ id)
    {target : Object} (at_ : s.objects[id]? = some target) (holds : Holds target f) :
    Machine.copyProperties id (.object src) [] e s = .ok () (filled s id own) := by
  have place : Ordinary s.objects src o := ⟨source, by rw [plain.kind]; rfl⟩
  have keys : Reads s (ownKeys src) (own.map fun entry => .text entry.1) := plain.keys ▸ place.reads_keys
  unfold Machine.copyProperties
  refine (run_bind (reads_pure src e)).trans ((run_bind (keys e)).trans ?_)
  refine (run_bind (forIn_filled own ?_ source apart at_ holds)).trans rfl
  intro entry mem t target f source at_ holds
  obtain ⟨w, b, value⟩ := plain.values entry mem
  have place : Ordinary t.objects src o := ⟨source, by rw [plain.kind]; rfl⟩
  have found : Reads t (ownProperty src (.text entry.1)) (some (.data entry.2 w true b)) := value ▸ place.reads_own
  have read : Reads t (getOf src (.text entry.1)) entry.2 := (place.finds value).reads
  have stored : createProperty id (.text entry.1) entry.2 e t = .ok () (filled t id [entry]) :=
    createProperty_ok holds at_
  refine (run_bind (found e)).trans ((run_bind (read e)).trans ?_)
  exact (run_bind stored).trans rfl

theorem objectProperty_named {name : String} {value : Expr} {v : Value} (other : name ≠ "__proto__")
    (evaluated : attributeValue c name value e s = .ok v t) :
    objectProperty c id (.property (propertyKey name) false false value) e s =
      .ok () (filled t id [(.plain name, v)]) := by
  have keeps : setsPrototype (propertyKey name) false false = false := by
    unfold propertyKey
    split
    · simp [setsPrototype, other]
    · simp [setsPrototype, text, other]
  have key : Reads s (keyOf c false (propertyKey name)) (.named name) := by
    unfold propertyKey
    split
    · exact reads_pure _
    · rw [text, String.ofList_toList]
      exact reads_pure _
  unfold objectProperty
  dsimp only
  rw [keeps]
  refine (run_bind (key e)).trans ?_
  unfold attributeValue at evaluated
  cases nameless : isNameless value with
  | true =>
    rw [nameless] at evaluated
    exact (run_bind evaluated).trans rfl
  | false =>
    rw [nameless] at evaluated
    exact (run_bind evaluated).trans rfl

theorem objectProperty_spread {value : Expr} (evaluated : evaluateHolding 1 c value e s = .ok (.object src) t)
    (plain : IsSpread o own) (source : t.objects[src]? = some o) (apart : src ≠ id) {target : Object}
    (at_ : t.objects[id]? = some target) (holds : Holds target f) :
    objectProperty c id (.spread value) e s = .ok () (filled t id own) :=
  (run_bind evaluated).trans (copyProperties_ok plain source apart at_ holds)

theorem Offers.place {attributes : List Expr} (h : Offers e c id attributes s offers u)
    (at_ : s.objects[id]? = some o) (holds : Holds o f) :
    ∃ o', u.objects[id]? = some o' ∧ Holds o' (merge f offers) := by
  induction h generalizing o f with
  | nil => exact ⟨o, at_, holds⟩
  | named lowering other evaluated kept later ih =>
    obtain ⟨o', at_', holds'⟩ := filled_place (kept.trans at_) holds [(.plain _, _)]
    exact ih at_' holds'
  | spread lowering evaluated kept apart source plain later ih =>
    obtain ⟨o', at_', holds'⟩ := filled_place (kept.trans at_) holds _
    obtain ⟨o'', at_'', holds''⟩ := ih at_' holds'
    refine ⟨o'', at_'', ?_⟩
    rw [merge, List.foldl_append]
    exact holds''

theorem Offers.run {attributes : List Expr} {body : Expr → PUnit → Run (ForInStep PUnit)}
    (step : ∀ p s t, objectProperty c id p e s = .ok () t → body p ⟨⟩ e s = .ok (.yield ⟨⟩) t)
    (h : Offers e c id attributes s offers u) (at_ : s.objects[id]? = some o) (holds : Holds o f) :
    (forIn (attributes.map (propertyOf (m := Id) lowered.expr)) ⟨⟩ body : Run PUnit) e s = .ok ⟨⟩ u := by
  induction h generalizing o f with
  | nil => rfl
  | named lowering other evaluated kept later ih =>
    obtain ⟨o', at_', holds'⟩ := filled_place (kept.trans at_) holds [(.plain _, _)]
    rw [List.map_cons, lowering]
    exact forIn_cons_ok (step _ _ _ (objectProperty_named other evaluated)) (ih at_' holds')
  | spread lowering evaluated kept apart source plain later ih =>
    obtain ⟨o', at_', holds'⟩ := filled_place (kept.trans at_) holds _
    have copied := objectProperty_spread evaluated plain source apart (kept.trans at_) holds
    rw [List.map_cons, lowering]
    exact forIn_cons_ok (step _ _ _ copied) (ih at_' holds')

/-- How the configuration of an element comes about: none without attributes, else the object of a
literal, which nothing refers to while the attributes are worked out. -/
inductive Configuration (fuel : Nat) (c : Context) (n : Nat) :
    List Expr → State → Value → List (Str × Value) → State → Prop
  | none {s : State} : Configuration fuel c n [] s .null [] s
  | literal {a : Expr} {attributes : List Expr} {s u : State} {offers : List (Str × Value)}
      (offered : Offers (engine builtins fuel) c s.objects.size (a :: attributes)
        { s with held := s.held + n, objects := s.objects.push (record []) } offers u) :
      Configuration fuel c n (a :: attributes) s (.object s.objects.size) offers { u with held := u.held - n }

/-- The values of arguments, one after the other; a spread one gives several. -/
inductive Passes (e : Engine) (c : Context) : Nat → List Expr → State → List Value → State → Prop
  | nil {n : Nat} {s : State} : Passes e c n [] s [] s
  | one {n : Nat} {a : Expr} {rest : List Expr} {s t u : State} {v : Value} {vs : List Value}
      (single : ∀ inner, a ≠ .spread inner) (evaluated : evaluateHolding n c a e s = .ok v t)
      (later : Passes e c (n + 1) rest t vs u) : Passes e c n (a :: rest) s (v :: vs) u
  | spread {n : Nat} {a : Expr} {rest : List Expr} {s t t' u : State} {v : Value} {ws : Array Value}
      {vs : List Value} (evaluated : evaluateHolding n c a e s = .ok v t)
      (listed : valuesOf v e t = .ok ws t') (later : Passes e c (n + ws.size) rest t' vs u) :
      Passes e c n (.spread a :: rest) s (ws.toList ++ vs) u

theorem Passes.run {args : List Expr} {vs : List Value} (out : Array Value)
    {body : Expr → Array Value → Run (ForInStep (Array Value))}
    (one : ∀ a out, (∀ inner, a ≠ .spread inner) →
      body a out = (do return .yield (out.push (← evaluateHolding (n + out.size) c a))))
    (several : ∀ a out, body (.spread a) out = (do
      let v ← evaluateHolding (n + out.size) c a
      return .yield (out ++ (← valuesOf v))))
    (h : Passes e c (n + out.size) args s vs t) :
    (forIn args out body : Run (Array Value)) e s = .ok (out ++ vs.toArray) t := by
  generalize count : n + out.size = m at h
  induction h generalizing out with
  | nil => simp; rfl
  | @one m a rest s t u v vs single evaluated later ih =>
    subst count
    have first : body a out e s = .ok (.yield (out.push v)) t := by
      rw [one a out single]
      exact (run_bind evaluated).trans rfl
    rw [forIn_cons_ok first (ih _ (by simp; omega))]
    simp
  | @spread m a rest s t t' u v ws vs evaluated listed later ih =>
    subst count
    have first : body (.spread a) out e s = .ok (.yield (out ++ ws)) t' := by
      rw [several a out]
      exact (run_bind evaluated).trans ((run_bind listed).trans rfl)
    have joined : out ++ ws ++ vs.toArray = out ++ (ws.toList ++ vs).toArray := by
      apply Array.toList_inj.mp
      simp
    rw [forIn_cons_ok first (ih _ (by simp; omega)), joined]

theorem argumentsFrom_ok {args : List Expr} {vs : List Value} (h : Passes e c n args s vs t) :
    argumentsFrom c n args e s = .ok vs.toArray t := by
  unfold argumentsFrom
  refine (run_bind (Passes.run (n := n) #[] ?one ?several (by simpa using h))).trans (by simp; rfl)
  case one =>
    intro a out single
    dsimp only
    split
    · exact absurd rfl (single _)
    · rfl
  case several => exact fun _ _ => rfl

theorem evaluate_ok {expr : Expr} {v : Value} (h : expression c expr (engine builtins fuel) s = .ok v t) :
    Run.evaluate c expr (engine builtins (fuel + 1)) s = .ok v t := by
  have task : performTask builtins (.expr c expr) (engine builtins fuel) s = .ok (.normal (some v)) t :=
    (run_bind h).trans rfl
  have performed : perform (.expr c expr) (engine builtins (fuel + 1)) s = .ok (.normal (some v)) t := task
  exact (run_bind performed).trans rfl

theorem evaluateHolding_ok {expr : Expr} {v : Value} (slow : isImmediate expr = false)
    (h : Run.evaluate c expr e { s with held := s.held + n } = .ok v t) :
    evaluateHolding n c expr e s = .ok v { t with held := t.held - n } := by
  unfold evaluateHolding
  rw [slow]
  have begun : (modify fun s => { s with held := s.held + n } : Run Unit) e s =
      .ok () { s with held := s.held + n } := rfl
  exact (run_bind begun).trans ((run_bind h).trans rfl)

/-- What the attributes of an element offer, merged. -/
def merged (offers : List (Str × Value)) : Key → Option Value := merge (fun _ => none) offers

theorem merge_eq_some {k : Key} {v : Value} (h : merge f offers k = some v) :
    f k = some v ∨ ∃ offer ∈ offers, k = .text offer.1 := by
  induction offers generalizing f with
  | nil => exact .inl h
  | cons offer offers ih =>
    obtain found | ⟨other, mem, same⟩ := ih h
    · by_cases here : k = .text offer.1
      · exact .inr ⟨offer, List.mem_cons_self .., here⟩
      · exact .inl ((Function.update_of_ne here _ f).symm.trans found)
    · exact .inr ⟨other, List.mem_cons_of_mem _ mem, same⟩

theorem Offers.other {attributes : List Expr} (h : Offers e c id attributes s offers u) :
    ∀ offer ∈ offers, offer.1 ≠ .plain "__proto__" := by
  induction h with
  | nil => simp
  | named lowering other evaluated kept later ih =>
    intro offer mem
    rcases List.mem_cons.mp mem with rfl | mem
    · simpa using other
    · exact ih offer mem
  | spread lowering evaluated kept apart source plain later ih =>
    intro offer mem
    rcases List.mem_append.mp mem with mem | mem
    · exact plain.other offer mem
    · exact ih offer mem

theorem Configuration.run {attributes : List Expr} {config : Value}
    (h : Configuration fuel c n attributes s config offers u) :
    evaluateHolding n c (properties (attributes.map (propertyOf (m := Id) lowered.expr))) (engine builtins (fuel + 1)) s =
        .ok config u ∧
      ((config = .null ∧ offers = []) ∨
        ∃ id o, config = .object id ∧ u.objects[id]? = some o ∧ Holds o (merged offers)) ∧
      ∀ offer ∈ offers, offer.1 ≠ .plain "__proto__" := by
  cases h with
  | none =>
    have value : expression c .null (engine builtins fuel) s = .ok .null s := rfl
    exact ⟨evaluate_ok value, .inl ⟨rfl, rfl⟩, by simp⟩
  | @literal a rest s u offers offered =>
    have begun : ({ s with held := s.held + n, objects := s.objects.push (record []) } : State).objects[s.objects.size]? =
        some (record []) := push_last _ _
    obtain ⟨o, at_, holds⟩ := offered.place begun holds_empty
    have value : expression c (.object ((a :: rest).map (propertyOf (m := Id) lowered.expr))) (engine builtins fuel)
        { s with held := s.held + n } = .ok (.object s.objects.size) u := by
      have made : newPlain (engine builtins fuel) { s with held := s.held + n } =
          .ok s.objects.size { s with held := s.held + n, objects := s.objects.push (record []) } := rfl
      refine (run_bind made).trans ((run_bind (offered.run ?_ begun holds_empty)).trans rfl)
      exact fun p s t done => (run_bind done).trans rfl
    exact ⟨evaluateHolding_ok rfl (evaluate_ok value), .inr ⟨_, o, rfl, at_, holds⟩, offered.other⟩

theorem typeOf_ne_spread {tag : Expr} (named : Node.isTag tag = true) (inner : Expr) : typeOf tag ≠ .spread inner := by
  cases tag <;> simp_all [Node.isTag, typeOf, text]

/-- An element with any attributes and children, worked out in their order: its properties are what the
attributes offer, merged from left to right, but for the key and the reference, and with the children
that it has in place of offered ones. -/
theorem element_created {tag : Expr} (types : List TypeNode) {attributes children : List Expr} (isEmpty : Bool)
    {create type config : Value} {vs : List Value} {I : Array Object → Prop} {keyText : Str}
    (named : Node.isTag tag = true) (handle : JsxTree.HoldsHandle s c)
    (owns : Owns s.objects Intrinsic.handle.id (.named "createElement") create)
    (typed : evaluateHolding 2 c (typeOf tag) (engine builtins (fuel + 1)) s = .ok type t)
    (configured : Configuration fuel c 3 attributes t config offers u)
    (passed : Passes (engine builtins (fuel + 1)) c 4 (children.flatMap (argumentsOf (m := Id) lowered.expr)) u vs w)
    (function : IsFunction w.objects create .page "createElement") (lasting : Lasting w I type) (now : I w.objects)
    (untouched : ∀ id, config = .object id → ∀ os, I os → os[id]? = u.objects[id]?)
    (converts : ∀ v, merged offers (.named "key") = some v → v.isNullish = false → BecomesText n w I v keyText)
    (room : Room (vs.length + n + 12) (fuel + 1) w) :
    ∃ v x, Run.evaluate c (lowered.expr (.element tag types attributes children isEmpty)) (engine builtins (fuel + 2)) s =
        .ok v x ∧
      ∃ given, StandsFor x.objects vs given ∧
        IsElement x.objects v type (keyOf (merged offers) keyText) (refOf (merged offers))
          (propsOf (merged offers) given) := by
  obtain ⟨configRun, shape, other⟩ := configured.run
  have supplied : IsGiven I config (merged offers) := by
    refine ⟨?_, ?_, ?_⟩
    · obtain ⟨rfl, rfl⟩ | ⟨id, o, rfl, at_, holds⟩ := shape
      · exact .inl ⟨rfl, rfl⟩
      · exact .inr ⟨id, o, rfl, holds, fun os keeps => (untouched id rfl os keeps).trans at_⟩
    · intro k v found
      obtain nothing | ⟨offer, -, same⟩ := merge_eq_some found
      · cases nothing
      · exact ⟨_, same⟩
    · by_contra found
      obtain ⟨v, found⟩ := Option.ne_none_iff_exists'.mp found
      obtain nothing | ⟨offer, mem, same⟩ := merge_eq_some found
      · cases nothing
      · exact other offer mem (Key.text.inj same).symm
  have callee : calleeOf c (handleMember "createElement") (engine builtins (fuel + 1)) s =
      .ok (Intrinsic.handle.value, create) s := by
    have base : Run.evaluate c (.identifier "React") (engine builtins (fuel + 1)) s = .ok Intrinsic.handle.value s :=
      evaluate_ok (handle.reads _)
    have member : Reads s (getValue Intrinsic.handle.value (.named "createElement")) create := owns.reads
    exact (run_bind base).trans ((run_bind (member _)).trans rfl)
  have args : Passes (engine builtins (fuel + 1)) c 2 (typeOf tag ::
      properties (attributes.map (propertyOf (m := Id) lowered.expr)) ::
        children.flatMap (argumentsOf (m := Id) lowered.expr)) s (type :: config :: vs) w := by
    apply Passes.one (typeOf_ne_spread named) typed
    apply Passes.one ?_ configRun passed
    intro inner same
    unfold properties at same
    split at same <;> cases same
  have called := gives_callElement Intrinsic.handle.value lasting now supplied converts function vs
  obtain ⟨v, x, run, -, -, given, stands, made⟩ | ⟨message, x, -, none_left⟩ := called.ends (fuel + 1)
  · refine ⟨v, x, ?_, given, stands, made⟩
    obtain ⟨f, o, captured, isConstructor, rfl, place, kind⟩ := function
    rw [(lowered_element tag types attributes children isEmpty).1]
    apply evaluate_ok
    refine (run_bind callee).trans ((run_bind (argumentsFrom_ok args)).trans ?_)
    exact run
  · exact absurd room none_left

def labelLiteral : Expr :=
  .object [.property (.identifier "title") false false (.string (.plain "b") "b"),
    .property (.identifier "key") false false (.string (.plain "k") "k")]

def labelEntries : List (String × Value) := [("title", .text "b"), ("key", .text "k")]

theorem evaluate_labelLiteral (c : Context) (s : State) (fuel : Nat) : ∃ t,
    evaluateHolding 1 c (lowered.expr labelLiteral) (engine builtins (fuel + 2)) s =
      .ok (.object s.objects.size) t ∧ Kept s t ∧ Extends s.objects t.objects ∧
        t.objects[s.objects.size]? = some (record labelEntries) := by
  have run : evaluateHolding 1 c (lowered.expr labelLiteral) (engine builtins (fuel + 2)) s =
      .ok (.object s.objects.size) { s with objects := (((s.objects.push (record [])).modify s.objects.size
        (·.store (.named "title") (.plain (.text "b")))).modify s.objects.size
          (·.store (.named "key") (.plain (.text "k")))) } := rfl
  refine ⟨_, run, ⟨rfl, rfl, rfl, rfl, rfl⟩, ?_, ?_⟩
  · exact ((extends_push _ _).modify (Nat.le_refl _)).modify (Nat.le_refl _)
  · exact modify_here (modify_here (push_last _ _))

/-- Attributes that give a title, give it again with a key by an object, and give children. -/
def labels : List Expr := [
  .jsxAttribute (.jsxName "title") (some (.jsxContainer (.string (.plain "a") "a"))),
  .jsxSpreadAttribute labelLiteral,
  .jsxAttribute (.jsxName "children") (some (.jsxContainer (.string (.plain "c") "c")))]

def labelOffers : List (Str × Value) := [(.plain "title", .text "a"), (.plain "title", .text "b"),
  (.plain "key", .text "k"), (.plain "children", .text "c")]

theorem isSpread_labels : IsSpread (record labelEntries)
    [(.plain "title", .text "b"), (.plain "key", .text "k")] where
  kind := rfl
  keys := record_keys (by decide) (by decide)
  values := by
    intro entry mem
    rcases List.mem_pair.mp mem with rfl | rfl
    · exact ⟨true, true, record_own (by decide) "title"⟩
    · exact ⟨true, true, record_own (by decide) "key"⟩
  other := by decide

theorem kept_filled (entries : List (Str × Value)) : Kept s (filled s id entries) := ⟨rfl, rfl, rfl, rfl, rfl⟩

theorem offers_labels {base : Array Object} (bound : id < s.objects.size) (grown : Extends base s.objects)
    (behind : base.size ≤ id) : ∃ u, Offers (engine builtins (fuel + 2)) c id labels s labelOffers u ∧
      Kept s u ∧ Extends base u.objects := by
  obtain ⟨o, there⟩ : ∃ o, (filled s id [(.plain "title", .text "a")]).objects[id]? = some o :=
    ⟨_, modify_here (Array.getElem?_eq_getElem bound)⟩
  have more : Extends base (filled s id [(.plain "title", .text "a")]).objects := grown.modify behind
  obtain ⟨t, run, kept, more', source⟩ :=
    evaluate_labelLiteral c (filled s id [(.plain "title", .text "a")]) fuel
  have same : t.objects[id]? = (filled s id [(.plain "title", .text "a")]).objects[id]? :=
    (more' id _ there).trans there.symm
  refine ⟨_, .named rfl (by decide) rfl rfl (.spread rfl run same ?_ source isSpread_labels
    (.named (t := filled t id _) rfl (by decide) rfl rfl .nil)), ?_, ?_⟩
  · exact Nat.ne_of_gt (size_of_place there)
  · exact (kept_filled _).trans (kept.trans ((kept_filled _).trans (kept_filled _)))
  · have copied : Extends base (filled t id [(.plain "title", .text "b"), (.plain "key", .text "k")]).objects :=
      (more.trans more').modify behind
    exact copied.modify behind

theorem assignable_withHandle (h : Assignable s.objects) : Assignable (JsxTree.withHandle s).objects := h

/-- The parts of a paragraph with these attributes, worked out in a state that pages begin in. -/
theorem labelled_parts (ready : Ready s) (assignable : Assignable s.objects) (room : Room 20 39 s) :
    ∃ create u, Owns s.objects Intrinsic.handle.id (.named "createElement") create ∧
      Configuration 38 c 3 labels s (.object s.objects.size) labelOffers u ∧
      Passes (engine builtins 39) c 4 ([Expr.jsxText "\n  d"].flatMap (argumentsOf (m := Id) lowered.expr)) u [.text "d"] u ∧
      IsFunction u.objects create .page "createElement" ∧ Lasting u (Extends u.objects) (.text "p") ∧
      (∀ os, Extends u.objects os → os[s.objects.size]? = u.objects[s.objects.size]?) ∧ Room 17 39 u := by
  obtain ⟨create, owns, function⟩ := ready.standard.createElement
  have bound : s.objects.size < (s.objects.push (record [])).size := by simp
  obtain ⟨u, offers, kept, more⟩ : ∃ u, Offers (engine builtins 38) c s.objects.size labels
      { s with held := s.held + 3, objects := s.objects.push (record []) } labelOffers u ∧ Kept _ u ∧
        Extends s.objects u.objects := offers_labels bound (extends_push _ _) (Nat.le_refl _)
  have held : u.held - 3 = s.held := by
    rw [kept.held]
    exact Nat.add_sub_cancel s.held 3
  have kept' : Kept s { u with held := u.held - 3 } := ⟨kept.scopes, kept.limits, kept.depth, held, kept.joining⟩
  have ready' : Ready { u with held := u.held - 3 } := ready.step kept'.around more
  have text : argumentsOf (m := Id) lowered.expr (Expr.jsxText "\n  d") = [.string (.plain "d") "d"] := by
    have clean : JsxText.clean "\n  d".toList = some ['d'] := by decide +kernel
    change ((JsxText.clean "\n  d".toList).map ElementCall.text).toList = _
    rw [clean]
    rfl
  obtain ⟨o, there, -⟩ := offers.place (push_last _ _) holds_empty
  refine ⟨create, _, owns, .literal offers, ?_, function.extends more,
    lasting_extends ready' (assignable.extends more) (.text _), ?_, ?_⟩
  · rw [List.flatMap_singleton, text]
    exact .one (by simp) rfl .nil
  · intro os more'
    exact (more' _ o there).trans there.symm
  · exact (kept'.room.mpr room).mono (by decide)

theorem evaluate_tag : evaluateHolding 2 c (typeOf (.jsxName "p")) (engine builtins (fuel + 1)) s = .ok (.text "p") s :=
  rfl

theorem element_created_labelled : ∃ v t, Run.evaluate ⟨1, 0, true⟩
      (lowered.expr (.element (.jsxName "p") [] labels [.jsxText "\n  d"] false)) (engine builtins 40)
      (JsxTree.withHandle (State.initial { loops := 100, calls := 200 })) = .ok v t ∧
    IsElement t.objects v (.text "p") (.text "k") .null (propsOf (merged labelOffers) (some (.text "d"))) ∧
    propsOf (merged labelOffers) (some (.text "d")) (.named "title") = some (.text "b") := by
  have ready := JsxTree.ready_withHandle (ready_initial { loops := 100, calls := 200 })
  have assignable := assignable_withHandle (Realm.assignable_initial { loops := 100, calls := 200 })
  have room : Room 20 39 (JsxTree.withHandle (State.initial { loops := 100, calls := 200 })) :=
    ⟨by decide, by decide, by decide⟩
  obtain ⟨create, u, owns, configured, passed, function, lasting, untouched, room'⟩ :=
    labelled_parts (c := ⟨1, 0, true⟩) ready assignable room
  have converts (v : Value) (given : merged labelOffers (.named "key") = some v) (_ : v.isNullish = false) :
      BecomesText 4 u (Extends u.objects) v (.plain "k") := by
    have key : merged labelOffers (.named "key") = some (.text "k") := rfl
    rw [← Option.some.inj (key.symm.trans given)]
    exact becomesText_plain "k"
  have typed : evaluateHolding 2 ⟨1, 0, true⟩ (typeOf (.jsxName "p")) (engine builtins 39)
      (JsxTree.withHandle (State.initial { loops := 100, calls := 200 })) = .ok (.text "p") _ := evaluate_tag
  obtain ⟨v, t, run, given, stands, made⟩ := element_created [] false rfl
    (JsxTree.holdsHandle_withHandle _ 0 true) owns typed configured passed function lasting (.refl _)
    (fun id same os more => Value.object.inj same ▸ untouched os more) converts room'
  cases stands
  exact ⟨v, t, run, made, rfl⟩

end PagePreview.Script.ElementCall
