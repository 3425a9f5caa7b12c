import PagePreview.Number.Reading
import PagePreview.Regex.Charset

/-! Regular expressions as they are written in scripts: their trees, and how one is read. -/

namespace PagePreview.Regex
open Number

inductive Node
  | empty
  | char (code : Nat)
  | any
  | set (s : Charset)
  | sequence (parts : List Node)
  | choice (branches : List Node)
  | group (index : Nat) (inner : Node)
  | loop (least : Nat) (most : Option Nat) (isLazy : Bool) (inner : Node) (first last : Nat)
  | textStart
  | textEnd
  | edge (isNegated : Bool)
  | look (isAhead isNegated : Bool) (inner : Node)
  | again (index : Nat)
  deriving Inhabited

structure Pattern where
  node : Node
  groups : Nat
  names : List (String × Nat)
  isGlobal : Bool
  comparison : Comparison
  isMultiline : Bool
  dotAll : Bool
  isUnicode : Bool
  isSticky : Bool
  hasIndices : Bool
  deriving Inhabited

inductive Fault
  | badFlag (flag : Char)
  | repeatedFlag (flag : Char)
  | rivalFlags
  | openBracket
  | openGroup
  | strayCharacter (c : Char)
  | badAtom
  | sameName
  | reversedCounts
  | badCounts
  | strayCounts
  | unrepeatable
  | openEscape
  | openClassEscape
  | badEscape
  | badCode
  | reversedRange
  | badRange
  | badSetCharacter
  | unknownName (name : String)
  | badName
  | badReference
  | propertyStart
  | propertyName

def Fault.treeMessage : Fault → String
  | .openBracket => "Unbalanced bracket"
  | .openGroup => "Unbalanced parenthesis"
  | .strayCharacter c => "Unexpected char: " ++ String.singleton c
  | .badAtom => "Invalid atom character"
  | .sameName => "Duplicate capture group name"
  | .reversedCounts | .badCounts => "Invalid quantifier"
  | .strayCounts => "Invalid braced quantifier"
  | .unrepeatable => "Quantifier not allowed here"
  | .openEscape => "Incomplete escape"
  | .openClassEscape => "Unterminated escape"
  | .badEscape => "Invalid character escape"
  | .badCode => "Invalid unicode escape"
  | .reversedRange => "Range values reversed, start char code is greater than end char code."
  | .badRange => "Invalid character range"
  | .badSetCharacter => "Invalid class set character"
  | .unknownName name => "Backreference to invalid named capture group: " ++ name
  | .badName => "Invalid token at named capture group identifier"
  | .badReference => "Unexpected end of named backreference"
  | .propertyStart => "Invalid character at property escape start"
  | .propertyName => "Invalid property name"
  | _ => ""

def Fault.isFlagFault : Fault → Bool
  | .badFlag _ | .repeatedFlag _ | .rivalFlags => true
  | _ => false

def Fault.message : Fault → String
  | .badFlag c => "invalid regular expression flag " ++ String.singleton c
  | .repeatedFlag c => "repeated regular expression flag " ++ String.singleton c
  | .rivalFlags => "cannot use both 'u' and 'v' flags"
  | f => "failed to create matcher: " ++ f.treeMessage

structure State where
  rest : List Char
  groups : Nat := 0
  groupCount : Nat := 0
  names : List (String × Nat) := []
  isUnicode : Bool
  hasSets : Bool := false

abbrev Read := EStateM Fault State

def peek? : Read (Option Char) := return (← get).rest.head?

def skip (n : Nat) : Read Unit := modify fun s => { s with rest := s.rest.drop n }

def looksAt (text : String) : Read Bool := do
  return text.toList.isPrefixOf (← get).rest

def eat (text : String) : Read Bool := do
  if ← looksAt text then
    skip text.length
    return true
  else return false

def takeWhile (p : Char → Bool) : Read (List Char) := do
  let taken := (← get).rest.takeWhile p
  skip taken.length
  return taken

def isDecimal (c : Char) : Bool := '0' ≤ c && c ≤ '9'
def isOctal (c : Char) : Bool := '0' ≤ c && c ≤ '7'
def isLetter (c : Char) : Bool := ('a' ≤ c && c ≤ 'z') || ('A' ≤ c && c ≤ 'Z')

def hexDigits? (n : Nat) : Read (Option Nat) := do
  let digits := (← get).rest.take n
  if digits.length == n && digits.all (isDigitIn 16) then
    skip n
    return some (ofDigits 16 digits)
  else return none

def codeEscape? : Read (Option Nat) := do
  let before ← get
  if ← eat "\x7b" then
    let digits ← takeWhile (isDigitIn 16)
    let n := ofDigits 16 digits
    if (← eat "\x7d") && !digits.isEmpty && n < 0x110000 && before.isUnicode then return some n
    set before
    return none
  match ← hexDigits? 4 with
  | none => return none
  | some high =>
    let middle ← get
    if before.isUnicode && 0xD800 ≤ high && high < 0xDC00 then
      if ← eat "\\u" then
        if let some low ← hexDigits? 4 then
          if 0xDC00 ≤ low && low < 0xE000 then
            return some (0x10000 + (high - 0xD800) * 0x400 + (low - 0xDC00))
      set middle
    return some high

def octalEscape (c : Char) : Read Nat := do
  let count := if c ≤ '3' then 2 else 1
  let more := ((← get).rest.take count).takeWhile isOctal
  skip more.length
  return ofDigits 8 (c :: more)

def isSign (c : Char) : Bool := "^$\\.*+?()[]\x7b\x7d|/".contains c

def charEscape : Read Nat := do
  let isUnicode := (← get).isUnicode
  let some c ← peek? | throw .openEscape
  skip 1
  match c with
  | 'n' => return 10
  | 'r' => return 13
  | 't' => return 9
  | 'v' => return 11
  | 'f' => return 12
  | 'c' =>
    match ← peek? with
    | some d =>
      if isLetter d then
        skip 1
        return d.toNat % 32
      else throw .badEscape
    | none => throw .badEscape
  | 'x' =>
    match ← hexDigits? 2 with
    | some n => return n
    | none => if isUnicode then throw .badEscape else return 'x'.toNat
  | 'u' =>
    match ← codeEscape? with
    | some n => return n
    | none => if isUnicode then throw .badCode else return 'u'.toNat
  | c =>
    if isUnicode then
      if c == '0' && !((← peek?).any isDecimal) then return 0
      else if isSign c then return c.toNat
      else throw .badEscape
    else if isOctal c then octalEscape c
    else return c.toNat

def propertyEscape : Read Text.Property := do
  if !(← eat "\x7b") then throw .propertyStart
  let isPlain (c : Char) : Bool := isLetter c || isDecimal c || c == '_'
  let first ← takeWhile isPlain
  let (key, value) ← do
    if ← eat "=" then pure (some (String.ofList first), ← takeWhile isPlain)
    else pure (none, first)
  if !(← eat "\x7d") then throw .propertyName
  match Text.Property.ofName? key (String.ofList value) with
  | some p => return p
  | none => throw .propertyName

def setEscape? : Read (Option Charset) := do
  let s ← get
  let plain (c : Charset) : Read (Option Charset) := do
    skip 1
    return some c
  match s.rest.head? with
  | some 'd' => plain .digit
  | some 'D' => plain (.negated .digit)
  | some 's' => plain .space
  | some 'S' => plain (.negated .space)
  | some 'w' => plain .word
  | some 'W' => plain (.negated .word)
  | some 'p' =>
    if !s.isUnicode then return none
    skip 1
    return some (.property (← propertyEscape))
  | some 'P' =>
    if !s.isUnicode then return none
    skip 1
    return some (.negated (.property (← propertyEscape)))
  | _ => return none

def Charset.one (n : Nat) : Charset := .range n n

def classAtom? : Read (Option (Sum Nat Charset)) := do
  let s ← get
  match s.rest with
  | [] => return none
  | ']' :: _ => return none
  | '\\' :: rest =>
    skip 1
    match rest with
    | [] => throw .openClassEscape
    | 'b' :: _ =>
      skip 1
      return some (.inl 8)
    | '-' :: _ =>
      skip 1
      return some (.inl '-'.toNat)
    | 'c' :: rest =>
      if s.isUnicode then return some (.inl (← charEscape))
      match rest with
      | d :: _ =>
        if isLetter d || isDecimal d || d == '_' then
          skip 2
          return some (.inl (d.toNat % 32))
        else return some (.inl '\\'.toNat)
      | [] => return some (.inl '\\'.toNat)
    | _ =>
      match ← setEscape? with
      | some c => return some (.inr c)
      | none => return some (.inl (← charEscape))
  | c :: _ =>
    skip 1
    return some (.inl c.toNat)

def atomSet : Sum Nat Charset → Charset
  | .inl n => .one n
  | .inr c => c

def classItems : Nat → Charset → Read Charset
  | 0, done => return done
  | fuel + 1, done => do
    if ← eat "]" then return done
    let some first ← classAtom? | throw .openBracket
    if !(← eat "-") then return ← classItems fuel (.either done (atomSet first))
    match ← classAtom? with
    | none => classItems fuel (.either done (.either (atomSet first) (.one '-'.toNat)))
    | some second =>
      match first, second with
      | .inl low, .inl high =>
        if high < low then throw .reversedRange
        classItems fuel (.either done (.range low high))
      | _, _ =>
        if (← get).isUnicode then throw .badRange
        classItems fuel (.either done (.either (atomSet first)
          (.either (.one '-'.toNat) (atomSet second))))

mutual

def setOperand (fuel : Nat) : Read (Sum Nat Charset) :=
  match fuel with
  | 0 => throw .openBracket
  | fuel + 1 => do
    if ← eat "[^" then return .inr (.negated (← nestedClass fuel))
    if ← eat "[" then return .inr (← nestedClass fuel)
    if ← eat "\\q\x7b" then
      let texts ← takeWhile (· != '\x7d')
      let _ ← eat "\x7d"
      return .inr ((Text.splitAt (· == '|') texts).foldl (fun set text =>
        match text with
        | [c] => .either set (.one c.toNat)
        | _ => set) .nothing)
    match ← peek? with
    | none => throw .openBracket
    | some '\\' =>
      skip 1
      match ← setEscape? with
      | some c => return .inr c
      | none =>
        match ← peek? with
        | some 'b' =>
          skip 1
          return .inl 8
        | some c =>
          if "&-!#%,:;<=>@\x60~".contains c then
            skip 1
            return .inl c.toNat
          else return .inl (← charEscape)
        | none => throw .openEscape
    | some c =>
      if "()]\x7b\x7d/-|".contains c then throw .badSetCharacter
      skip 1
      return .inl c.toNat

def nestedClass (fuel : Nat) : Read Charset :=
  match fuel with
  | 0 => throw .openBracket
  | fuel + 1 => do
    if ← eat "]" then return .nothing
    let first ← setOperand fuel
    if (← looksAt "&&") || (← looksAt "--") then setOperations fuel (atomSet first)
    else nestedItems fuel .nothing first

def setOperations (fuel : Nat) (done : Charset) : Read Charset :=
  match fuel with
  | 0 => throw .openBracket
  | fuel + 1 => do
    if ← eat "]" then return done
    if ← eat "&&" then setOperations fuel (.both done (atomSet (← setOperand fuel)))
    else if ← eat "--" then setOperations fuel (.without done (atomSet (← setOperand fuel)))
    else if (← peek?).isNone then throw .openBracket
    else throw .badSetCharacter

def nestedItems (fuel : Nat) (done : Charset) (next : Sum Nat Charset) : Read Charset :=
  match fuel with
  | 0 => throw .openBracket
  | fuel + 1 => do
    let done ← match next, ← looksAt "-" with
      | .inl low, true => do
        skip 1
        match ← setOperand fuel with
        | .inl high =>
          if high < low then throw .reversedRange
          pure (Charset.either done (.range low high))
        | .inr _ => throw .badRange
      | next, _ => pure (.either done (atomSet next))
    if ← eat "]" then return done
    nestedItems fuel done (← setOperand fuel)

end

/-- The counts in braces that tell how often something is repeated; nothing is read if there are
none. -/
def counts? : Read (Option (Nat × Option Nat)) := do
  let before ← get
  if !(← eat "\x7b") then return none
  let low ← takeWhile isDecimal
  let least := ofDigits 10 low
  let most ← if ← eat "," then do
      let high ← takeWhile isDecimal
      pure (if high.isEmpty then none else some (ofDigits 10 high))
    else pure (some least)
  if !low.isEmpty && (← eat "\x7d") then return some (least, most)
  if before.isUnicode then throw .badCounts
  set before
  return none

def repetition? : Read (Option (Nat × Option Nat)) := do
  if ← eat "*" then return some (0, none)
  if ← eat "+" then return some (1, none)
  if ← eat "?" then return some (0, some 1)
  counts?

def charNode (isUnicode : Bool) (n : Nat) : Node :=
  if isUnicode || n < 0x10000 then .char n
  else
    let m := n - 0x10000
    .sequence [.char (0xD800 + m / 0x400), .char (0xDC00 + m % 0x400)]

def groupName? : Read (Option String) := do
  let before ← get
  let fail : Read (Option String) := do
    set before
    return none
  if !(← eat "<") then return none
  let rec name : Nat → List Char → Read (Option (List Char))
    | 0, _ => return none
    | fuel + 1, done => do
      if ← eat ">" then return if done.isEmpty then none else some done.reverse
      let c? ← if ← eat "\\u" then do
          let s ← get
          set { s with isUnicode := true }
          let n ← codeEscape?
          modify fun t => { t with isUnicode := s.isUnicode }
          pure (n.map Char.ofNat)
        else do
          let c ← peek?
          skip 1
          pure c
      match c? with
      | some c =>
        let fits := c == '$' || c == '_' || (if done.isEmpty then Text.isNameStart c else Text.isNameRest c)
        if fits then name fuel (c :: done) else return none
      | none => return none
  match ← name (before.rest.length + 1) [] with
  | some cs => return some (String.ofList cs)
  | none => fail

def escapeNode : Read Node := do
  let s ← get
  if s.rest.isEmpty then throw .openEscape
  if ← eat "b" then return .edge false
  if ← eat "B" then return .edge true
  match ← setEscape? with
  | some c => return .set c
  | none =>
    match s.rest.head? with
    | some 'k' =>
      if s.names.isEmpty && !s.isUnicode then
        skip 1
        return .char 'k'.toNat
      skip 1
      match ← groupName? with
      | none => throw .badReference
      | some name =>
        match s.names.lookup name with
        | some i => return .again i
        | none => throw (.unknownName name)
    | some 'c' =>
      if !s.isUnicode && !((s.rest.drop 1).head?.any isLetter) then return .char '\\'.toNat
      else return .char (← charEscape)
    | some c =>
      let digits := s.rest.takeWhile isDecimal
      let n := ofDigits 10 digits
      if '1' ≤ c && c ≤ '9' then
        if n ≤ s.groupCount then
          skip digits.length
          return .again n
        if s.isUnicode then throw .badEscape
      return charNode s.isUnicode (← charEscape)
    | none => throw .openEscape

def classNode (fuel : Nat) : Read Node := do
  let isNegated ← eat "^"
  let c ← if (← get).hasSets then nestedClass fuel else classItems fuel .nothing
  return .set (if isNegated then .negated c else c)

mutual

def choice (fuel : Nat) : Read Node :=
  match fuel with
  | 0 => throw .openGroup
  | fuel + 1 => do
    let first ← sequence fuel []
    if ← eat "|" then
      match ← choice fuel with
      | .choice rest => return .choice (first :: rest)
      | other => return .choice [first, other]
    else return first

def sequence (fuel : Nat) (done : List Node) : Read Node :=
  match fuel with
  | 0 => throw .openGroup
  | fuel + 1 => do
    match ← peek? with
    | none | some '|' | some ')' =>
      return match done with
        | [n] => n
        | ns => .sequence ns.reverse
    | some _ =>
      let first := (← get).groups + 1
      let (n, isRepeatable) ← term fuel
      match ← repetition? with
      | some (least, most) =>
        let isLazy ← eat "?"
        if !isRepeatable then throw .unrepeatable
        if most.any (· < least) then throw .reversedCounts
        let last := (← get).groups
        sequence fuel (.loop least most isLazy n first last :: done)
      | none => sequence fuel (n :: done)

def term (fuel : Nat) : Read (Node × Bool) :=
  match fuel with
  | 0 => throw .openGroup
  | fuel + 1 => do
    let isUnicode := (← get).isUnicode
    let inside : Read Node := do
      let n ← choice fuel
      if !(← eat ")") then throw .openGroup
      return n
    if ← eat "^" then return (.textStart, false)
    if ← eat "$" then return (.textEnd, false)
    if ← eat "\\" then
      let n ← escapeNode
      return (n, match n with
        | .edge _ => false
        | _ => true)
    if ← eat "." then return (.any, true)
    if ← eat "(?=" then return (.look true false (← inside), !isUnicode)
    if ← eat "(?!" then return (.look true true (← inside), !isUnicode)
    if ← eat "(?<=" then return (.look false false (← inside), false)
    if ← eat "(?<!" then return (.look false true (← inside), false)
    if ← eat "(?:" then return (← inside, true)
    if ← eat "(" then
      modify fun s => { s with groups := s.groups + 1 }
      let index := (← get).groups
      if ← eat "?" then
        if (← groupName?).isNone then throw .badName
      return (.group index (← inside), true)
    if ← eat "[" then return (← classNode fuel, true)
    match ← peek? with
    | none => return (.empty, true)
    | some c =>
      if c == '\x7b' && !isUnicode then
        if (← counts?).isSome then throw .strayCounts
      else if "*+?".contains c || (isUnicode && "]\x7b\x7d".contains c) then throw .badAtom
      skip 1
      return (charNode isUnicode c.toNat, true)

end

/-- The names of the groups of a pattern and their count, found without reading anything else. -/
def findGroups : Nat → Read Unit
  | 0 => return
  | fuel + 1 => do
    match ← peek? with
    | none => return
    | some c =>
      skip 1
      match c with
      | '\\' => skip 1
      | '[' => skipClass fuel
      | '(' =>
        if ← eat "?" then
          if let some name ← groupName? then
            let s ← get
            if (s.names.lookup name).isSome then throw .sameName
            set { s with names := s.names ++ [(name, s.groupCount + 1)], groupCount := s.groupCount + 1 }
        else modify fun s => { s with groupCount := s.groupCount + 1 }
      | _ => pure ()
      findGroups fuel
where
  skipClass : Nat → Read Unit
    | 0 => return
    | fuel + 1 => do
      match ← peek? with
      | none => return
      | some c =>
        skip 1
        if c == ']' then return
        if c == '\\' then skip 1
        skipClass fuel

def checkFlags : List Char → List Char → Except Fault Unit
  | _, [] => .ok ()
  | seen, c :: rest =>
    if !"gimsuydv".contains c then .error (.badFlag c)
    else if seen.contains c then .error (.repeatedFlag c)
    else checkFlags (c :: seen) rest

def read (source flags : String) : Except Fault Pattern := do
  let flags := flags.toList
  let has (c : Char) : Bool := flags.contains c
  checkFlags [] flags
  if has 'u' && has 'v' then throw .rivalFlags
  let isUnicode := has 'u' || has 'v'
  let comparison := if !has 'i' then .exact else if isUnicode then .folded else .upper
  let chars := source.toList
  let whole : Read Node := do
    findGroups (chars.length + 1)
    modify fun s => { s with rest := chars }
    let n ← choice (4 * chars.length + 8)
    match ← peek? with
    | some ')' => throw .openGroup
    | some c => throw (.strayCharacter c)
    | none => return n
  match whole.run { rest := chars, isUnicode, hasSets := has 'v' } with
  | .error e _ => .error e
  | .ok node s =>
    return {
      node, groups := s.groups, names := s.names, isGlobal := has 'g', comparison
      isMultiline := has 'm', dotAll := has 's', isUnicode, isSticky := has 'y', hasIndices := has 'd' }

end PagePreview.Regex
