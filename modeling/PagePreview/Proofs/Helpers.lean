import PagePreview.Proofs.Hygiene

/-!
# Helpers where they are needed

The values of stand-ins mention helpers, and the definitions of helpers mention others. What a text
mentions is read off it: the words outside its string literals that begin with two underscores. A
prelude has the helpers that its symbols reach by such mentions, each once, no others, and all of them
in front of the first symbol.
-/

namespace PagePreview
open Text

/-- Where the reading of a script stands: in code, behind the letters of a word, or inside a string
literal with that quote, perhaps behind a backslash. -/
inductive Reading
  | code (word : List Char)
  | literal (quote : Char)
  | escape (quote : Char)
  deriving DecidableEq

namespace Reading

def next : Reading → Char → Reading
  | code word, c =>
    if isNameRest c then code (word ++ [c])
    else if c = '"' || c = '\'' then literal c
    else code []
  | literal quote, c =>
    if c = '\\' then escape quote else if c = quote then code [] else literal quote
  | escape quote, _ => literal quote

def ended : Reading → Char → List (List Char)
  | code word, c => if isNameRest c || word.isEmpty then [] else [word]
  | _, _ => []

def read (r : Reading) : List Char → List (List Char) × Reading
  | [] => ([], r)
  | c :: s =>
    let (words, stop) := read (r.next c) s
    (r.ended c ++ words, stop)

def pending : Reading → List (List Char)
  | code word => if word.isEmpty then [] else [word]
  | _ => []

theorem read_append (r : Reading) (s t : List Char) :
    r.read (s ++ t) = ((r.read s).1 ++ ((r.read s).2.read t).1, ((r.read s).2.read t).2) := by
  induction s generalizing r with
  | nil => rfl
  | cons c s ih => simp only [List.cons_append, read, ih, List.append_assoc]

end Reading

def codeWords (s : List Char) : List (List Char) :=
  ((Reading.code []).read s).1 ++ ((Reading.code []).read s).2.pending

def isInternal (word : List Char) : Bool := startsWith "__".toList word

/-- The words among them that begin with two underscores. -/
def internalNames (s : List Char) : List String :=
  ((codeWords s).filter isInternal).map String.ofList

def IsWhole (s : List Char) : Prop := ((Reading.code []).read s).2 = .code []

instance (s : List Char) : Decidable (IsWhole s) := by unfold IsWhole; infer_instance

theorem IsWhole.append {s t : List Char} (hs : IsWhole s) (ht : IsWhole t) : IsWhole (s ++ t) := by
  unfold IsWhole at hs ht ⊢
  rw [Reading.read_append, hs, ht]

theorem internalNames_append {s : List Char} (whole : IsWhole s) (t : List Char) :
    internalNames (s ++ t) = internalNames s ++ internalNames t := by
  unfold IsWhole at whole
  simp [internalNames, codeWords, Reading.read_append, whole, Reading.pending]

theorem internalNames_flatten {parts : List (List Char)} (whole : ∀ s ∈ parts, IsWhole s) :
    IsWhole parts.flatten ∧ internalNames parts.flatten = parts.flatMap internalNames := by
  induction parts with
  | nil => exact ⟨rfl, rfl⟩
  | cons s parts ih =>
    have first := whole s (by simp)
    obtain ⟨rest, names⟩ := ih fun t ht => whole t (by simp [ht])
    rw [List.flatten_cons, internalNames_append first, names]
    exact ⟨first.append rest, rfl⟩

theorem read_plain {quote c : Char} (notSlash : c ≠ '\\') (notQuote : c ≠ quote) :
    (Reading.literal quote).read [c] = ([], .literal quote) := by
  simp [Reading.read, Reading.next, Reading.ended, notSlash, notQuote]

theorem hexDigit_ne_mark {n : Nat} (h : n < 16) : hexDigit n ≠ '\\' ∧ hexDigit n ≠ '"' := by
  have table : ∀ n < 16, hexDigit n ≠ '\\' ∧ hexDigit n ≠ '"' := by decide
  exact table n h

theorem read_quoteChar (c : Char) :
    (Reading.literal '"').read (quoteChar c) = ([], .literal '"') := by
  unfold quoteChar
  split_ifs with mark slash feed return_ tab back form control
  · rfl
  · rfl
  · rfl
  · rfl
  · rfl
  · rfl
  · rfl
  · obtain ⟨high, high'⟩ := hexDigit_ne_mark (n := c.toNat / 16) (by omega)
    obtain ⟨low, low'⟩ := hexDigit_ne_mark (n := c.toNat % 16) (by omega)
    have parts : ['\\', 'u', '0', '0', hexDigit (c.toNat / 16), hexDigit (c.toNat % 16)] =
        ['\\', 'u', '0', '0'] ++ ([hexDigit (c.toNat / 16)] ++ [hexDigit (c.toNat % 16)]) := rfl
    have opening : (Reading.literal '"').read ['\\', 'u', '0', '0'] = ([], .literal '"') := rfl
    rw [parts, Reading.read_append, opening, Reading.read_append, read_plain high high',
      read_plain low low']
    rfl
  · exact read_plain slash mark

theorem read_quoteChars (s : List Char) :
    (Reading.literal '"').read (s.flatMap quoteChar) = ([], .literal '"') := by
  induction s with
  | nil => rfl
  | cons c s ih => rw [List.flatMap_cons, Reading.read_append, read_quoteChar, ih]; rfl

theorem internalNames_quoted (s : String) :
    IsWhole (quoted s).toList ∧ internalNames (quoted s).toList = [] := by
  have whole : (Reading.code []).read (quote s.toList) = ([], .code []) := by
    have opening : (Reading.code []).read ['"'] = ([], .literal '"') := rfl
    have closing : (Reading.literal '"').read ['"'] = ([], .code []) := rfl
    have parts : quote s.toList = ['"'] ++ (s.toList.flatMap quoteChar ++ ['"']) := rfl
    rw [parts, Reading.read_append, opening, Reading.read_append, read_quoteChars, closing]
    rfl
  rw [quoted, String.toList_ofList]
  exact ⟨by rw [IsWhole, whole], by simp [internalNames, codeWords, whole, Reading.pending]⟩

def IsName (name : String) : Prop :=
  ∃ c rest, name.toList = c :: rest ∧ isNameStart c = true ∧ ∀ d ∈ rest, isNameRest d = true

theorem isName_of_all {name : String} {c : Char} {rest : List Char} (letters : name.toList = c :: rest)
    (start : isNameStart c = true) (others : rest.all isNameRest = true) : IsName name :=
  ⟨c, rest, letters, start, List.all_eq_true.mp others⟩

theorem isNameRest_of_isNameStart {c : Char} (h : isNameStart c = true) : isNameRest c = true := by
  unfold isNameStart at h
  unfold isNameRest
  split at h
  · rename_i ascii
    rw [if_pos ascii]
    simp only [Bool.or_eq_true] at h ⊢
    tauto
  · rename_i other
    rw [if_neg other]
    simp [h]

theorem IsName.letters {name : String} (h : IsName name) : ∀ c ∈ name.toList, isNameRest c = true := by
  obtain ⟨c, rest, letters, start, others⟩ := h
  rw [letters]
  exact List.forall_mem_cons.mpr ⟨isNameRest_of_isNameStart start, others⟩

theorem IsName.unbroken {name : String} (h : IsName name) : Unbroken name.toList := by
  intro c hc
  have letter := h.letters c hc
  by_contra broken
  have feeds : c = '\n' ∨ c = '\r' := by simpa [isBreak, or_iff_not_imp_left] using broken
  rcases feeds with rfl | rfl <;> revert letter <;> decide

theorem read_letters {word name : List Char} (letters : ∀ c ∈ name, isNameRest c = true) :
    (Reading.code word).read name = ([], .code (word ++ name)) := by
  induction name generalizing word with
  | nil => simp [Reading.read]
  | cons c name ih =>
    have letter := letters c (by simp)
    simp only [Reading.read, Reading.next, Reading.ended, letter, if_true, Bool.true_or,
      ih fun d hd => letters d (by simp [hd]), List.append_assoc, List.singleton_append,
      List.nil_append]

theorem read_name {name : List Char} (letters : ∀ c ∈ name, isNameRest c = true) (nonempty : name ≠ [])
    {c : Char} (stops : isNameRest c = false) (s : List Char) :
    (Reading.code []).read (name ++ c :: s) =
      (name :: (((Reading.code []).next c).read s).1, (((Reading.code []).next c).read s).2) := by
  have some : name.isEmpty = false := by simpa using nonempty
  have same : ∀ word, (Reading.code word).next c = (Reading.code []).next c := by
    intro word
    simp [Reading.next, stops]
  rw [Reading.read_append, read_letters letters]
  simp only [Reading.read, Reading.ended, stops, List.nil_append, some, Bool.or_self,
    Bool.false_eq_true, if_false, same, List.singleton_append]

theorem internalNames_name {name : String} (h : IsName name) (s : List Char) :
    internalNames (name.toList ++ ' ' :: s) =
      (if isInternal name.toList then [name] else []) ++ internalNames s := by
  obtain ⟨c, rest, first, -⟩ := id h
  have read := read_name h.letters (by simp [first]) (by decide : isNameRest ' ' = false) s
  have space : (Reading.code []).next ' ' = .code [] := by decide
  rw [space] at read
  simp only [internalNames, codeWords, read, List.cons_append, List.filter_cons]
  split <;> simp

theorem isWhole_name {name : String} (h : IsName name) {s : List Char} (hs : IsWhole s) :
    IsWhole (name.toList ++ ' ' :: s) := by
  obtain ⟨c, rest, first, -⟩ := id h
  have read := read_name h.letters (by simp [first]) (by decide : isNameRest ' ' = false) s
  have space : (Reading.code []).next ' ' = .code [] := by decide
  rw [space] at read
  rw [IsWhole, read]
  exact hs

namespace StandIn

/-- A declaration mentions its own name, if it is such a name, and what its value mentions. -/
theorem internalNames_declare {name value : String} (hn : IsName name)
    (whole : IsWhole (value.toList ++ [';'])) :
    IsWhole (declare name value).toList ∧ internalNames (declare name value).toList =
      (if isInternal name.toList then [name] else []) ++ internalNames (value.toList ++ [';']) := by
  have parts : (declare name value).toList =
      "const ".toList ++ (name.toList ++ ' ' :: (['=', ' '] ++ (value.toList ++ [';']))) := by
    simp [declare]
  have const : IsWhole "const ".toList ∧ internalNames "const ".toList = [] := by decide
  have binds : IsWhole ['=', ' '] ∧ internalNames ['=', ' '] = [] := by decide
  rw [parts, internalNames_append const.1, const.2, internalNames_name hn, internalNames_append binds.1,
    binds.2, List.nil_append, List.nil_append]
  exact ⟨const.1.append (isWhole_name hn (binds.1.append whole)), rfl⟩

theorem internalNames_line {s : List Char} (whole : IsWhole s) :
    IsWhole (s ++ ['\n']) ∧ internalNames (s ++ ['\n']) = internalNames s := by
  have feed : IsWhole ['\n'] ∧ internalNames ['\n'] = [] := by decide
  rw [internalNames_append whole, feed.2]
  exact ⟨whole.append feed.1, List.append_nil _⟩

def roots : SymbolKind → List String
  | .component => ["__createStubComponent"]
  | .statefulCapability => ["__createStubHook"]
  | .icon => ["__createIconStub"]
  | .namespaceProxy => ["__createNamespaceStub"]
  | .mediaStandIn => ["__ImageStub"]
  | .navigationStandIn => ["__LinkStub"]
  | .utility | .plainValue => []

theorem internalNames_iconPath (s : ClassifiedSymbol) :
    IsWhole ((iconPathValue s).toList ++ [')', ';']) ∧
      internalNames ((iconPathValue s).toList ++ [')', ';']) = [] := by
  unfold iconPathValue
  split
  · rename_i path _
    obtain ⟨whole, names⟩ := internalNames_quoted path
    rw [internalNames_append whole, names]
    exact ⟨whole.append (by decide), by decide⟩
  · decide

theorem internalNames_call {f : String} {names : List String}
    (head : IsWhole f.toList ∧ internalNames f.toList = names) (x : String) {rest : List Char}
    (tail : IsWhole rest ∧ internalNames rest = []) :
    IsWhole (f.toList ++ ((quoted x).toList ++ rest)) ∧
      internalNames (f.toList ++ ((quoted x).toList ++ rest)) = names := by
  obtain ⟨whole, none⟩ := internalNames_quoted x
  rw [internalNames_append head.1, internalNames_append whole, head.2, none, tail.2]
  exact ⟨head.1.append (whole.append tail.1), by simp⟩

theorem internalNames_value (s : ClassifiedSymbol) :
    IsWhole ((value s).toList ++ [';']) ∧ internalNames ((value s).toList ++ [';']) = roots s.kind := by
  have close : IsWhole [')', ';'] ∧ internalNames [')', ';'] = [] := by decide
  have ends : ∀ f : String, (f ++ quoted s.name ++ ")").toList ++ [';'] =
      f.toList ++ ((quoted s.name).toList ++ [')', ';']) := by
    intro f
    simp
  cases kind : s.kind with
  | component =>
    simp only [value, kind, ends, roots]
    exact internalNames_call (by decide) s.name close
  | statefulCapability =>
    simp only [value, kind, ends, roots]
    exact internalNames_call (by decide) s.name close
  | icon =>
    have parts : ("__createIconStub(" ++ quoted s.name ++ ", " ++ iconPathValue s ++ ")").toList ++ [';'] =
        "__createIconStub(".toList ++ ((quoted s.name).toList ++
          (", ".toList ++ ((iconPathValue s).toList ++ [')', ';']))) := by
      simp
    have comma : IsWhole ", ".toList ∧ internalNames ", ".toList = [] := by decide
    obtain ⟨path, none⟩ := internalNames_iconPath s
    have rest : internalNames (", ".toList ++ ((iconPathValue s).toList ++ [')', ';'])) = [] := by
      rw [internalNames_append comma.1, comma.2, none]
      rfl
    simp only [value, kind, parts, roots]
    exact internalNames_call (by decide) s.name ⟨comma.1.append path, rest⟩
  | namespaceProxy =>
    simp only [value, kind, ends, roots]
    exact internalNames_call (by decide) s.name close
  | mediaStandIn =>
    simp only [value, kind, roots]
    decide
  | navigationStandIn =>
    simp only [value, kind, roots]
    decide
  | utility =>
    simp only [value, kind, roots, toList_script]
    decide
  | plainValue =>
    simp only [value, kind, roots, toList_script]
    decide

def library (config : Config) : List String :=
  [componentHelper, hookHelper, namespaceHelper,
    declare "__DEFAULT_ICON_PATH" (quoted Icon.defaultPath), iconHelper,
    declare "__IMAGE_FALLBACK" (quoted config.imagePlaceholderUrl), imageHelper,
    declare "__LINK_FALLBACK" (quoted config.linkPlaceholderHref), linkHelper]

/-- The lines up to the first that opens a constant, and the texts of the constants from there on. -/
def chunks : List (List Char) → List Char × List (List Char)
  | [] => ([], [])
  | line :: lines =>
    let (lead, texts) := chunks lines
    if startsWith "const ".toList line then ([], (line ++ '\n' :: lead) :: texts)
    else (line ++ '\n' :: lead, texts)

def definitions (s : List Char) : List (List Char) := (chunks (splitAt (· == '\n') s)).2

/-- The names that a text defines, each with the internal names that its definition mentions. -/
def mentioned (s : List Char) : List (String × List String) :=
  (definitions s).flatMap fun d => (topNames d).map fun name => (name, (internalNames d).dedup)

def Calls (config : Config) (caller callee : String) : Prop :=
  ∃ text ∈ library config, ∃ names, (caller, names) ∈ mentioned text.toList ∧ callee ∈ names

/-- A helper is needed if the declaration of a symbol mentions it, or the definition of a helper that
is needed does. -/
inductive Needed (config : Config) (table : SymbolTable) : String → Prop
  | direct {s : ClassifiedSymbol} {name : String} :
    s ∈ table.entries → name ∈ internalNames (declaration s).toList → Needed config table name
  | through {caller callee : String} :
    Needed config table caller → Calls config caller callee → Needed config table callee

def callees : List (String × List String) := [
  ("__createStubComponent", ["__createStubComponent"]),
  ("__noop", ["__noop"]),
  ("__createStubHook", ["__createStubHook", "__noop"]),
  ("__createNamespaceStub", ["__createNamespaceStub", "__createStubComponent"]),
  ("__DEFAULT_ICON_PATH", ["__DEFAULT_ICON_PATH"]),
  ("__createIconStub", ["__createIconStub", "__DEFAULT_ICON_PATH"]),
  ("__IMAGE_FALLBACK", ["__IMAGE_FALLBACK"]),
  ("__IMAGE_ONLY_PROPS", ["__IMAGE_ONLY_PROPS"]),
  ("__ImageStub", ["__ImageStub", "__IMAGE_ONLY_PROPS", "__IMAGE_FALLBACK"]),
  ("__LINK_FALLBACK", ["__LINK_FALLBACK"]),
  ("__LINK_ONLY_PROPS", ["__LINK_ONLY_PROPS"]),
  ("__LinkStub", ["__LinkStub", "__LINK_ONLY_PROPS", "__LINK_FALLBACK"])]

def needs (kind : SymbolKind) : List String :=
  (roots kind).flatMap fun root => (callees.lookup root).getD []

/-- The text of a helper: what it defines and mentions, all of which one kind of symbol needs. -/
structure Serves (kind : SymbolKind) (text : List Char) (names : List (String × List String)) :
    Prop where
  whole : IsWhole text
  mentioned_eq : mentioned text = names
  needed : ∀ name ∈ internalNames text, name ∈ needs kind

theorem fixedHelpers_serve :
    Serves .component componentHelper.toList
      [("__createStubComponent", ["__createStubComponent"])] ∧
    Serves .statefulCapability hookHelper.toList
      [("__noop", ["__noop"]), ("__createStubHook", ["__createStubHook", "__noop"])] ∧
    Serves .namespaceProxy namespaceHelper.toList
      [("__createNamespaceStub", ["__createNamespaceStub", "__createStubComponent"])] ∧
    Serves .icon iconHelper.toList
      [("__createIconStub", ["__createIconStub", "__DEFAULT_ICON_PATH"])] ∧
    Serves .mediaStandIn imageHelper.toList
      [("__IMAGE_ONLY_PROPS", ["__IMAGE_ONLY_PROPS"]),
        ("__ImageStub", ["__ImageStub", "__IMAGE_ONLY_PROPS", "__IMAGE_FALLBACK"])] ∧
    Serves .navigationStandIn linkHelper.toList
      [("__LINK_ONLY_PROPS", ["__LINK_ONLY_PROPS"]),
        ("__LinkStub", ["__LinkStub", "__LINK_ONLY_PROPS", "__LINK_FALLBACK"])] := by
  refine ⟨?_, ?_, ?_, ?_, ?_, ?_⟩
  · rw [componentHelper, toList_script, String.toList_ofList]
    exact ⟨by decide +kernel, by decide +kernel, by decide +kernel⟩
  · rw [hookHelper, toList_script, String.toList_ofList]
    exact ⟨by decide +kernel, by decide +kernel, by decide +kernel⟩
  · rw [namespaceHelper, toList_script, String.toList_ofList]
    exact ⟨by decide +kernel, by decide +kernel, by decide +kernel⟩
  · rw [iconHelper, toList_script, String.toList_ofList]
    exact ⟨by decide +kernel, by decide +kernel, by decide +kernel⟩
  · rw [imageHelper, toList_script, String.toList_ofList]
    exact ⟨by decide +kernel, by decide +kernel, by decide +kernel⟩
  · rw [linkHelper, toList_script, String.toList_ofList]
    exact ⟨by decide +kernel, by decide +kernel, by decide +kernel⟩

theorem quoted_serves {kind : SymbolKind} {name : String} (plain : IsPlain name) (word : IsName name)
    (internal : isInternal name.toList = true) (needed : name ∈ needs kind) (value : String) :
    Serves kind (declare name (quoted value)).toList [(name, [name])] := by
  obtain ⟨quiet, none⟩ := internalNames_quoted value
  have ends : IsWhole [';'] ∧ internalNames [';'] = [] := by decide
  have unbroken := declare_unbroken plain.unbroken (quoted_unbroken value)
  obtain ⟨whole, names⟩ := internalNames_declare word (quiet.append ends.1)
  rw [internalNames_append quiet, none, ends.2, if_pos internal] at names
  have line : definitions (declare name (quoted value)).toList =
      [(declare name (quoted value)).toList ++ ['\n']] := by
    have free : ∀ c ∈ (declare name (quoted value)).toList, (c == '\n') = false := by
      intro c hc
      simpa using fun same : c = '\n' => absurd (unbroken c hc) (by rw [same]; decide)
    have opens : startsWith "const ".toList (declare name (quoted value)).toList = true := by
      refine startsWith_iff.mpr ⟨name.toList ++ (" = ".toList ++ ((quoted value).toList ++ ";".toList)), ?_⟩
      simp [declare]
    rw [definitions, splitAt_free free, chunks, chunks]
    dsimp only
    rw [if_pos opens]
  refine ⟨whole, ?_, ?_⟩
  · rw [mentioned, line, List.flatMap_singleton, topNames_declare plain (quoted_unbroken value),
      (internalNames_line whole).2, names]
    rfl
  · intro found member
    rw [names] at member
    obtain rfl : found = name := by simpa using member
    exact needed

theorem glyphPath_serves : Serves .icon (declare "__DEFAULT_ICON_PATH" (quoted Icon.defaultPath)).toList
    [("__DEFAULT_ICON_PATH", ["__DEFAULT_ICON_PATH"])] :=
  quoted_serves (by unfold IsPlain; decide) (isName_of_all rfl (by decide) (by decide)) (by decide) (by decide) _

theorem imageFallback_serves (url : String) :
    Serves .mediaStandIn (declare "__IMAGE_FALLBACK" (quoted url)).toList
      [("__IMAGE_FALLBACK", ["__IMAGE_FALLBACK"])] :=
  quoted_serves (by unfold IsPlain; decide) (isName_of_all rfl (by decide) (by decide)) (by decide) (by decide) _

theorem linkFallback_serves (href : String) :
    Serves .navigationStandIn (declare "__LINK_FALLBACK" (quoted href)).toList
      [("__LINK_FALLBACK", ["__LINK_FALLBACK"])] :=
  quoted_serves (by unfold IsPlain; decide) (isName_of_all rfl (by decide) (by decide)) (by decide) (by decide) _

theorem mentioned_library (config : Config) :
    (library config).flatMap (fun text => mentioned text.toList) = callees := by
  obtain ⟨component, hook, proxy, icon, image, link⟩ := fixedHelpers_serve
  simp only [library, List.flatMap_cons, List.flatMap_nil, component.mentioned_eq, hook.mentioned_eq,
    proxy.mentioned_eq, glyphPath_serves.mentioned_eq, icon.mentioned_eq, (imageFallback_serves _).mentioned_eq,
    image.mentioned_eq, (linkFallback_serves _).mentioned_eq, link.mentioned_eq]
  rfl

theorem calls_iff {config : Config} {caller callee : String} :
    Calls config caller callee ↔ ∃ names, (caller, names) ∈ callees ∧ callee ∈ names := by
  rw [← mentioned_library config]
  simp only [Calls, List.mem_flatMap]
  constructor
  · rintro ⟨text, member, names, found, callee⟩
    exact ⟨names, ⟨text, member, found⟩, callee⟩
  · rintro ⟨names, ⟨text, member, found⟩, callee⟩
    exact ⟨text, member, names, found, callee⟩

theorem needs_closed (kind : SymbolKind) :
    ∀ x ∈ callees, x.1 ∈ needs kind → ∀ callee ∈ x.2, callee ∈ needs kind := by
  cases kind <;> decide

theorem needs_reached (kind : SymbolKind) :
    ∀ name ∈ needs kind, ∃ root ∈ roots kind, ∃ x ∈ callees, x.1 = root ∧ name ∈ x.2 := by
  cases kind <;> decide

theorem containsKind_iff {table : SymbolTable} {kind : SymbolKind} :
    table.containsKind kind = true ↔ ∃ s ∈ table.entries, s.kind = kind := by
  simp [SymbolTable.containsKind]

/-- The names of the helpers that are there are those that the kinds of the table need. -/
theorem mem_helperNames_iff_kind {table : SymbolTable} {name : String} :
    name ∈ helperNames table ↔ ∃ kind, table.containsKind kind = true ∧ name ∈ needs kind := by
  have component : name ∈ needs .component ↔ name ∈ ["__createStubComponent"] :=
    List.Perm.mem_iff (by decide)
  have hook : name ∈ needs .statefulCapability ↔ name ∈ ["__noop", "__createStubHook"] :=
    List.Perm.mem_iff (by decide)
  have proxy : name ∈ needs .namespaceProxy ↔
      name ∈ ["__createStubComponent"] ∨ name ∈ ["__createNamespaceStub"] :=
    (List.Perm.mem_iff (by decide)).trans List.mem_append
  have icon : name ∈ needs .icon ↔ name ∈ ["__DEFAULT_ICON_PATH", "__createIconStub"] :=
    List.Perm.mem_iff (by decide)
  have image : name ∈ needs .mediaStandIn ↔
      name ∈ ["__IMAGE_FALLBACK", "__IMAGE_ONLY_PROPS", "__ImageStub"] :=
    List.Perm.mem_iff (by decide)
  have link : name ∈ needs .navigationStandIn ↔
      name ∈ ["__LINK_FALLBACK", "__LINK_ONLY_PROPS", "__LinkStub"] :=
    List.Perm.mem_iff (by decide)
  simp only [helperNames, List.mem_append, List.mem_ite_nil_right, Bool.or_eq_true]
  constructor
  · rintro (((((⟨has | has, h⟩ | ⟨has, h⟩) | ⟨has, h⟩) | ⟨has, h⟩) | ⟨has, h⟩) | ⟨has, h⟩)
    · exact ⟨_, has, component.mpr h⟩
    · exact ⟨_, has, proxy.mpr (.inl h)⟩
    · exact ⟨_, has, hook.mpr h⟩
    · exact ⟨_, has, proxy.mpr (.inr h)⟩
    · exact ⟨_, has, icon.mpr h⟩
    · exact ⟨_, has, image.mpr h⟩
    · exact ⟨_, has, link.mpr h⟩
  · rintro ⟨kind, has, h⟩
    cases kind with
    | component => simp only [has, component.mp h, true_or, and_self]
    | statefulCapability => simp only [has, hook.mp h, true_or, or_true, and_self]
    | icon => simp only [has, icon.mp h, true_or, or_true, and_self]
    | mediaStandIn => simp only [has, image.mp h, true_or, or_true, and_self]
    | navigationStandIn => simp only [has, link.mp h, or_true, and_self]
    | namespaceProxy =>
      rcases proxy.mp h with first | own
      · simp only [has, first, true_or, or_true, and_self]
      · simp only [has, own, true_or, or_true, and_self]
    | utility => cases h
    | plainValue => cases h

/-- A name is among those of the helpers that are there exactly if the kind of a symbol needs it. -/
theorem mem_helperNames {table : SymbolTable} {name : String} :
    name ∈ helperNames table ↔ ∃ s ∈ table.entries, name ∈ needs s.kind := by
  rw [mem_helperNames_iff_kind]
  simp only [containsKind_iff]
  constructor
  · rintro ⟨_, ⟨s, member, rfl⟩, needed⟩
    exact ⟨s, member, needed⟩
  · rintro ⟨s, member, needed⟩
    exact ⟨_, ⟨s, member, rfl⟩, needed⟩

theorem roots_needed (kind : SymbolKind) : ∀ root ∈ roots kind, root ∈ needs kind := by
  cases kind <;> decide

/-- The symbols of a table have names of a script that do not look like those of helpers. -/
def Named (table : SymbolTable) : Prop :=
  ∀ s ∈ table.entries, IsName s.name ∧ isInternal s.name.toList = false

section
variable {config : Config} {table : SymbolTable} {name : String}

theorem internalNames_declaration (named : Named table) {s : ClassifiedSymbol}
    (member : s ∈ table.entries) : IsWhole (declaration s).toList ∧
      internalNames (declaration s).toList = roots s.kind := by
  obtain ⟨word, other⟩ := named s member
  obtain ⟨whole, names⟩ := internalNames_value s
  obtain ⟨whole, all⟩ := internalNames_declare word whole
  rw [names, other] at all
  exact ⟨whole, all⟩

theorem needed_iff (named : Named table) :
    Needed config table name ↔ ∃ s ∈ table.entries, name ∈ needs s.kind := by
  constructor
  · intro needed
    induction needed with
    | @direct s name member mention =>
      rw [(internalNames_declaration named member).2] at mention
      exact ⟨s, member, roots_needed s.kind name mention⟩
    | through _ calls ih =>
      obtain ⟨s, member, caller⟩ := ih
      obtain ⟨names, found, callee⟩ := calls_iff.mp calls
      exact ⟨s, member, needs_closed s.kind _ found caller _ callee⟩
  · rintro ⟨s, member, need⟩
    obtain ⟨root, isRoot, ⟨_, names⟩, found, rfl, callee⟩ := needs_reached s.kind name need
    refine .through (.direct member ?_) (calls_iff.mpr ⟨names, found, callee⟩)
    rw [(internalNames_declaration named member).2]
    exact isRoot

theorem helpers_sublist (config : Config) (table : SymbolTable) :
    (helpers config table).Sublist (library config) := by
  have optional : ∀ (p : Bool) (texts : List String), (if p then texts else []).Sublist texts := by
    intro p texts
    cases p
    · exact List.nil_sublist _
    · exact List.Sublist.refl _
  have parts : library config = [componentHelper] ++ [hookHelper] ++ [namespaceHelper] ++
      [declare "__DEFAULT_ICON_PATH" (quoted Icon.defaultPath), iconHelper] ++
      [declare "__IMAGE_FALLBACK" (quoted config.imagePlaceholderUrl), imageHelper] ++
      [declare "__LINK_FALLBACK" (quoted config.linkPlaceholderHref), linkHelper] := rfl
  rw [parts, helpers]
  exact (((((optional _ _).append (optional _ _)).append (optional _ _)).append
    (optional _ _)).append (optional _ _)).append (optional _ _)

theorem helpers_serve {text : String} (h : text ∈ helpers config table) :
    ∃ s ∈ table.entries, IsWhole text.toList ∧ ∀ name ∈ internalNames text.toList, name ∈ needs s.kind := by
  have serve : ∀ {kind : SymbolKind}, table.containsKind kind = true →
      (∃ names, Serves kind text.toList names) → ∃ s ∈ table.entries, IsWhole text.toList ∧
        ∀ name ∈ internalNames text.toList, name ∈ needs s.kind := by
    rintro kind has ⟨names, serves⟩
    obtain ⟨s, hs, rfl⟩ := containsKind_iff.mp has
    exact ⟨s, hs, serves.whole, serves.needed⟩
  obtain ⟨component, hook, proxy, icon, image, link⟩ := fixedHelpers_serve
  have proxied : Serves .namespaceProxy componentHelper.toList
      [("__createStubComponent", ["__createStubComponent"])] := by
    refine ⟨component.whole, component.mentioned_eq, fun name mention => ?_⟩
    have inherited : ∀ name ∈ needs .component, name ∈ needs .namespaceProxy := by decide
    exact inherited name (component.needed name mention)
  simp only [helpers, List.mem_append, List.mem_ite_nil_right, List.mem_cons, List.not_mem_nil, or_false] at h
  rcases h with ((((⟨has, rfl⟩ | ⟨has, rfl⟩) | ⟨has, rfl⟩) | ⟨has, rfl | rfl⟩) | ⟨has, rfl | rfl⟩) |
    ⟨has, rfl | rfl⟩
  · rcases Bool.or_eq_true _ _ ▸ has with components | proxies
    · exact serve components ⟨_, component⟩
    · exact serve proxies ⟨_, proxied⟩
  · exact serve has ⟨_, hook⟩
  · exact serve has ⟨_, proxy⟩
  · exact serve has ⟨_, glyphPath_serves⟩
  · exact serve has ⟨_, icon⟩
  · exact serve has ⟨_, imageFallback_serves _⟩
  · exact serve has ⟨_, image⟩
  · exact serve has ⟨_, linkFallback_serves _⟩
  · exact serve has ⟨_, link⟩

theorem internalNames_lines {texts : List String} (some : texts ≠ [])
    (whole : ∀ t ∈ texts, IsWhole t.toList) : IsWhole (lines texts).toList ∧
      internalNames (lines texts).toList = texts.flatMap fun t => internalNames t.toList := by
  have parts : ∀ s ∈ texts.map (fun t => t.toList ++ ['\n']), IsWhole s := by
    intro s hs
    obtain ⟨t, ht, rfl⟩ := List.mem_map.mp hs
    exact (internalNames_line (whole t ht)).1
  obtain ⟨all, names⟩ := internalNames_flatten parts
  rw [lines_toList some, names, List.flatMap_map]
  exact ⟨all, List.flatMap_congr fun t ht => (internalNames_line (whole t ht)).2⟩

theorem internalNames_prelude (named : Named table)
    (h : name ∈ internalNames (prelude config table).toList) :
    ∃ s ∈ table.entries, name ∈ needs s.kind := by
  unfold prelude at h
  split at h
  · cases h
  · rename_i some
    have declared : table.entries.map declaration ≠ [] := by simpa using some
    have whole : ∀ t ∈ table.entries.map declaration, IsWhole t.toList := by
      intro t ht
      obtain ⟨s, hs, rfl⟩ := List.mem_map.mp ht
      exact (internalNames_declaration named hs).1
    have front : IsWhole (lines (helpers config table)).toList ∧
        ∀ name ∈ internalNames (lines (helpers config table)).toList,
          ∃ s ∈ table.entries, name ∈ needs s.kind := by
      rcases eq_or_ne (helpers config table) [] with none | some
      · rw [none]
        have blank : IsWhole (lines []).toList ∧ internalNames (lines []).toList = [] := by decide
        exact ⟨blank.1, fun name mention => absurd (blank.2 ▸ mention) List.not_mem_nil⟩
      · obtain ⟨wholeFront, names⟩ := internalNames_lines some fun t ht => by
          obtain ⟨-, -, whole, -⟩ := helpers_serve ht
          exact whole
        refine ⟨wholeFront, fun name mention => ?_⟩
        rw [names] at mention
        obtain ⟨t, ht, mention⟩ := List.mem_flatMap.mp mention
        obtain ⟨s, hs, -, needed⟩ := helpers_serve ht
        exact ⟨s, hs, needed name mention⟩
    rw [String.toList_append, internalNames_append front.1, (internalNames_lines declared whole).2] at h
    rcases List.mem_append.mp h with helper | symbol
    · exact front.2 name helper
    · rw [List.flatMap_map] at symbol
      obtain ⟨s, hs, mention⟩ := List.mem_flatMap.mp symbol
      rw [(internalNames_declaration named hs).2] at mention
      exact ⟨s, hs, roots_needed s.kind name mention⟩

/-- A prelude is its helpers, if there are symbols, and then one line for each symbol. -/
theorem prelude_toList (config : Config) (table : SymbolTable) : (prelude config table).toList =
    (if table.entries = [] then [] else (lines (helpers config table)).toList) ++
      table.entries.flatMap fun s => ("const " ++ s.name ++ " = " ++ value s ++ ";\n").toList := by
  rcases eq_or_ne table.entries [] with none | some
  · simp [prelude, none]
  · have line : ∀ s : ClassifiedSymbol, (declaration s).toList ++ ['\n'] =
        ("const " ++ s.name ++ " = " ++ value s ++ ";\n").toList := by
      intro s
      simp [declaration, declare]
    have declared : table.entries.map declaration ≠ [] := by simpa using some
    have full : table.entries.isEmpty = false := by simpa using some
    rw [prelude, full, if_neg Bool.false_ne_true, String.toList_append, lines_toList declared, List.map_map]
    simp only [if_neg some, List.flatMap, Function.comp_def, line]

/-- A prelude is helpers and then one line for each symbol, in order. The helpers bind no name twice,
and bind exactly the names that the symbols need, themselves or through other helpers. Nothing in the
prelude mentions an internal name that they do not bind. -/
theorem prelude_closed (config : Config) (table : SymbolTable) (named : Named table) :
    ∃ texts, texts.Sublist (library config) ∧
      let front := if table.entries = [] then [] else (lines texts).toList
      (prelude config table).toList = front ++ table.entries.flatMap (fun s =>
        ("const " ++ s.name ++ " = " ++ value s ++ ";\n").toList) ∧
      (∀ s ∈ table.entries, Unbroken (declaration s).toList) ∧
      (topNames front).Nodup ∧
      (∀ name, name ∈ topNames front ↔ Needed config table name) ∧
      ∀ name ∈ internalNames (prelude config table).toList, name ∈ topNames front := by
  refine ⟨helpers config table, helpers_sublist config table, ?_⟩
  intro front
  have bound : topNames front = helperNames table := by
    rcases eq_or_ne table.entries [] with none | some
    · have empty : topNames [] = [] := by decide
      simp [front, none, helperNames, SymbolTable.containsKind, empty]
    · simp only [front, if_neg some, topNames_helpers]
  refine ⟨prelude_toList config table,
    fun s hs => declare_unbroken (named s hs).1.unbroken (value_unbroken s), ?_, ?_, ?_⟩
  · rw [bound]
    exact (Sanitized.helperNames_nodup table).1
  · intro name
    rw [bound, mem_helperNames, needed_iff named]
  · intro name mention
    rw [bound, mem_helperNames]
    exact internalNames_prelude named mention

end

def mixedSymbols : List ClassifiedSymbol :=
  [⟨"Motion", "Motion", .namespaceProxy, "framer-motion"⟩,
    ⟨"useCart", "useCart", .statefulCapability, "@/store"⟩,
    ⟨"Photo", "default", .mediaStandIn, "next/image"⟩, ⟨"cn", "cn", .utility, "@/lib/utils"⟩]

def mixedTable : SymbolTable := mixedSymbols.foldl SymbolTable.insert .empty

theorem mixedTable_entries : mixedTable.entries = mixedSymbols := by decide +kernel

/-- The namespace brings the helper for components with it, and nothing brings that for icons. -/
theorem prelude_closed_mixed : Named mixedTable ∧
    ∃ texts, texts.Sublist (library {}) ∧ (prelude {} mixedTable).toList = (lines texts).toList ++
        mixedTable.entries.flatMap (fun s => ("const " ++ s.name ++ " = " ++ value s ++ ";\n").toList) ∧
      "__createStubComponent" ∈ topNames (lines texts).toList ∧
      "__createIconStub" ∉ topNames (lines texts).toList := by
  have named : Named mixedTable := by
    intro s member
    simp only [mixedTable_entries, mixedSymbols, List.mem_cons, List.not_mem_nil, or_false] at member
    rcases member with rfl | rfl | rfl | rfl
    all_goals exact ⟨isName_of_all rfl (by decide) (by decide), by decide⟩
  obtain ⟨texts, part, text, -, -, bound, -⟩ := prelude_closed {} mixedTable named
  refine ⟨named, texts, part, text, (bound _).mpr ?_, fun icon => ?_⟩
  · have motion : ⟨"Motion", "Motion", .namespaceProxy, "framer-motion"⟩ ∈ mixedTable.entries := by
      rw [mixedTable_entries]
      exact List.mem_cons_self
    have root : Needed {} mixedTable "__createNamespaceStub" := .direct motion (by decide)
    have uses : Calls {} "__createNamespaceStub" "__createStubComponent" :=
      calls_iff.mpr ⟨["__createNamespaceStub", "__createStubComponent"], by decide, by decide⟩
    exact root.through uses
  · have needless := (needed_iff named).mp ((bound _).mp icon)
    revert needless
    decide +kernel

end StandIn
end PagePreview
