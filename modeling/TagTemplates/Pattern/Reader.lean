import TagTemplates.Pattern.Basic

/-!
# Reading patterns

The written form of patterns: characters stand for themselves, and there are classes in brackets,
groups, alternatives, repetitions, conditions on places, and flags that hold to the end of their
group.  `Pattern.read?` is `none` for a text that is no pattern.
-/

namespace TagTemplates

namespace Pattern

/-- What flags change. -/
structure Flags where
  ignoreCase : Bool := false
  /-- The ends of lines count as ends of the text. -/
  byLine : Bool := false
  /-- A dot stands for the end of a line too. -/
  dotAll : Bool := false
  /-- White space and comments are left out. -/
  spaced : Bool := false

/-- The set of a character, under the flags. -/
def Flags.set (flags : Flags) (set : CharSet) : CharSet :=
  if flags.ignoreCase then .anyCase set else set

/-! ## Escapes -/

/-- What an escape stands for. -/
inductive Escape where
  | char (c : Char)
  | set (set : CharSet)
  | check (assertion : Assertion)

/-- The value of a hexadecimal digit. -/
def hexValue? (c : Char) : Option Nat :=
  if c.isDigit then some (c.toNat - '0'.toNat)
  else if 'a' ≤ c ∧ c ≤ 'f' then some (c.toNat - 'a'.toNat + 10)
  else if 'A' ≤ c ∧ c ≤ 'F' then some (c.toNat - 'A'.toNat + 10)
  else none

/-- The character of a code point in hexadecimal digits. -/
def hexChar? (digits : List Char) : Option Char := do
  if digits.isEmpty || digits.length > 8 then none
  else
    let n ← digits.foldlM (fun n d => (hexValue? d).map (16 * n + ·)) 0
    if Nat.isValidChar n then some (Char.ofNat n) else none

/-- Read a code point: a fixed number of digits, or any number in braces. -/
def readHex (count : Nat) : List Char → Option (Char × List Char)
  | '{' :: rest => do
    let (digits, rest) ← Text.cutAt? '}' rest
    return (← hexChar? digits, rest)
  | cs => if cs.length < count then none else do return (← hexChar? (cs.take count), cs.drop count)

/-- The conditions that may follow a word boundary in braces. -/
def boundaryKind? : String → Option Assertion
  | "start" => some .wordStart
  | "end" => some .wordEnd
  | _ => none

/-- Read what follows a backslash. -/
def readEscape : List Char → Option (Escape × List Char)
  | [] => none
  | c :: rest =>
    match c with
    | 'd' => some (.set .digit, rest)
    | 'D' => some (.set (.complement .digit), rest)
    | 's' => some (.set .space, rest)
    | 'S' => some (.set (.complement .space), rest)
    | 'w' => some (.set .word, rest)
    | 'W' => some (.set (.complement .word), rest)
    | 'a' => some (.char '\x07', rest)
    | 'f' => some (.char '\x0C', rest)
    | 't' => some (.char '\t', rest)
    | 'n' => some (.char '\n', rest)
    | 'r' => some (.char '\r', rest)
    | 'v' => some (.char '\x0B', rest)
    | 'A' => some (.check .textStart, rest)
    | 'z' => some (.check .textEnd, rest)
    | 'B' => some (.check .noWordBoundary, rest)
    | '<' => some (.check .wordStart, rest)
    | '>' => some (.check .wordEnd, rest)
    | 'b' =>
      match rest with
      | '{' :: inside =>
        match Text.cutAt? '}' inside with
        | some (kind, after) =>
          match boundaryKind? (String.ofList kind) with
          | some assertion => some (.check assertion, after)
          | none => some (.check .wordBoundary, rest)
        | none => some (.check .wordBoundary, rest)
      | _ => some (.check .wordBoundary, rest)
    | 'x' => (readHex 2 rest).map fun (c, rest) => (.char c, rest)
    | 'u' => (readHex 4 rest).map fun (c, rest) => (.char c, rest)
    | 'U' => (readHex 8 rest).map fun (c, rest) => (.char c, rest)
    | _ =>
      if c.toNat < 128 && !c.isAlphanum then some (.char c, rest) else none

/-! ## Classes in brackets -/

/-- The classes that are written by name inside a class. -/
def namedSet? (name : String) : Option CharSet :=
  let r (a b : Char) : CharSet := .range a.toNat b.toNat
  let alpha := CharSet.union (r 'a' 'z') (r 'A' 'Z')
  let alnum := CharSet.union alpha (r '0' '9')
  match name with
  | "alnum" => some alnum
  | "alpha" => some alpha
  | "ascii" => some (.range 0 127)
  | "blank" => some (.union (.ofChar ' ') (.ofChar '\t'))
  | "cntrl" => some (.union (.range 0 31) (.range 127 127))
  | "digit" => some (r '0' '9')
  | "graph" => some (r '!' '~')
  | "lower" => some (r 'a' 'z')
  | "print" => some (r ' ' '~')
  | "punct" => some (.minus (r '!' '~') alnum)
  | "space" => some (.union (.range 9 13) (.ofChar ' '))
  | "upper" => some (r 'A' 'Z')
  | "word" => some (.union alnum (.ofChar '_'))
  | "xdigit" => some (.union (r '0' '9') (.union (r 'a' 'f') (r 'A' 'F')))
  | _ => none

/-- Read a class that is written by name, behind its opening bracket and colon. -/
def readNamedSet (cs : List Char) : Option (CharSet × List Char) := do
  let (inside, rest) ← Text.cutAt? ':' cs
  let (negated, name) :=
    match inside with
    | '^' :: name => (true, name)
    | name => (false, name)
  let set ← namedSet? (String.ofList name)
  match rest with
  | ']' :: rest => return (if negated then .complement set else set, rest)
  | _ => none

/-- Leave out white space and comments where a flag says so. -/
def skipSpaced (flags : Flags) : List Char → List Char
  | [] => []
  | c :: cs =>
    if !flags.spaced then c :: cs
    else if Text.isSpace c then skipSpaced flags cs
    else if c == '#' then skipComment cs
    else c :: cs
where
  skipComment : List Char → List Char
    | [] => []
    | c :: cs => if c == '\n' then skipSpaced flags cs else skipComment cs

/-- A single character of a class, or a set of them. -/
inductive ClassItem where
  | char (c : Char)
  | set (set : CharSet)

/-- Read one item of a class that is no class itself. -/
def readClassItem : List Char → Option (ClassItem × List Char)
  | [] => none
  | '\\' :: rest =>
    match readEscape rest with
    | some (.char c, rest) => some (.char c, rest)
    | some (.set set, rest) => some (.set set, rest)
    | _ => none
  | c :: rest => some (.char c, rest)

/-- The operators between the parts of a class. -/
inductive ClassOperator where
  | inter
  | minus
  | symmetric

/-- What an operator makes of the two sides; nothing stands on the left of the first one. -/
def ClassOperator.apply (a b : CharSet) : ClassOperator → CharSet
  | inter => .inter a b
  | minus => .minus a b
  | symmetric => .union (.minus a b) (.minus b a)

/-- A class that is being read: the finished left side with its operator, and the items so far. -/
structure ClassState where
  left : Option (CharSet × ClassOperator) := none
  items : CharSet := .none

/-- Add items to a class. -/
def ClassState.add (state : ClassState) (set : CharSet) : ClassState :=
  { state with items := .union state.items set }

/-- The set of a class. -/
def ClassState.finish (state : ClassState) : CharSet :=
  match state.left with
  | some (left, op) => op.apply left state.items
  | none => state.items

/-- The hyphens at the beginning of a class stand for themselves. -/
def leadingHyphens (state : ClassState) : List Char → ClassState × List Char
  | '-' :: rest => leadingHyphens (state.add (.ofChar '-')) rest
  | cs => (state, cs)

mutual

/-- Read a class behind its opening bracket. -/
def readClass (flags : Flags) : Nat → List Char → Option (CharSet × List Char)
  | 0, _ => none
  | fuel + 1, cs => do
    let (negated, cs) :=
      match skipSpaced flags cs with
      | '^' :: rest => (true, skipSpaced flags rest)
      | other => (false, other)
    let (state, cs) :=
      match cs with
      | ']' :: rest => (ClassState.add {} (.ofChar ']'), rest)
      | other => leadingHyphens {} other
    let (set, rest) ← readClassItems flags fuel state cs
    return (if negated then .complement set else set, rest)

/-- Read the items of a class up to its closing bracket. -/
def readClassItems (flags : Flags) :
    Nat → ClassState → List Char → Option (CharSet × List Char)
  | 0, _, _ => none
  | fuel + 1, state, cs =>
    let operator (op : ClassOperator) (rest : List Char) : Option (CharSet × List Char) :=
      readClassItems flags fuel { left := some (state.finish, op) } rest
    match skipSpaced flags cs with
    | [] => none
    | ']' :: rest => some (state.finish, rest)
    | '[' :: ':' :: rest =>
      match readNamedSet rest with
      | some (set, rest) => readClassItems flags fuel (state.add (flags.set set)) rest
      | none => do
        let (set, rest) ← readClass flags fuel (':' :: rest)
        readClassItems flags fuel (state.add set) rest
    | '[' :: rest => do
      let (set, rest) ← readClass flags fuel rest
      readClassItems flags fuel (state.add set) rest
    | '&' :: '&' :: rest => operator .inter rest
    | '-' :: '-' :: rest => operator .minus rest
    | '~' :: '~' :: rest => operator .symmetric rest
    | cs => do
      let (item, rest) ← readClassItem cs
      match item with
      | .set set => readClassItems flags fuel (state.add (flags.set set)) rest
      | .char first =>
        match skipSpaced flags rest with
        | '-' :: after =>
          match skipSpaced flags after with
          | ']' :: _ => readClassItems flags fuel (state.add (flags.set (.ofChar first))) rest
          | '-' :: _ => readClassItems flags fuel (state.add (flags.set (.ofChar first))) rest
          | after => do
            let (item, rest) ← readClassItem after
            match item with
            | .char last =>
              if first.toNat ≤ last.toNat then
                readClassItems flags fuel
                  (state.add (flags.set (.range first.toNat last.toNat))) rest
              else none
            | .set _ => none
        | _ => readClassItems flags fuel (state.add (flags.set (.ofChar first))) rest

end

/-! ## Repetitions -/

/-- Read a decimal number of a counted repetition. -/
def readCount (flags : Flags) (cs : List Char) : Option (Nat × List Char) :=
  let cs := skipSpaced flags (cs.dropWhile Text.isSpace)
  let digits := cs.takeWhile Char.isDigit
  if digits.isEmpty || digits.length > 9 then none
  else some (Text.digitsValue digits, (cs.dropWhile Char.isDigit).dropWhile Text.isSpace)

/-- Read a counted repetition behind its opening brace: the least and the greatest number. -/
def readCounts (flags : Flags) (cs : List Char) : Option ((Nat × Option Nat) × List Char) := do
  let (least, rest) ← readCount flags cs
  match rest with
  | '}' :: rest => return ((least, some least), rest)
  | ',' :: rest =>
    match rest.dropWhile Text.isSpace with
    | '}' :: rest => return ((least, none), rest)
    | _ => do
      let (most, rest) ← readCount flags rest
      match rest with
      | '}' :: rest => if least ≤ most then return ((least, some most), rest) else none
      | _ => none
  | _ => none

/-- Leave out the mark of a repetition that prefers few. -/
def skipLazy (flags : Flags) (cs : List Char) : List Char :=
  match skipSpaced flags cs with
  | '?' :: rest => rest
  | other => other

/-! ## Groups -/

/-- Read flags up to the character that ends them; the last argument says whether they are set or
cleared. -/
def readFlags (flags : Flags) (on : Bool) : List Char → Option (Flags × List Char)
  | [] => none
  | c :: rest =>
    match c with
    | 'i' => readFlags { flags with ignoreCase := on } on rest
    | 'm' => readFlags { flags with byLine := on } on rest
    | 's' => readFlags { flags with dotAll := on } on rest
    | 'x' => readFlags { flags with spaced := on } on rest
    | 'U' => readFlags flags on rest
    | 'u' => readFlags flags on rest
    | 'R' => readFlags flags on rest
    | '-' =>
      match on, rest with
      | true, next :: _ => if next == ')' || next == ':' then none else readFlags flags false rest
      | _, _ => none
    | ')' => some (flags, c :: rest)
    | ':' => some (flags, c :: rest)
    | _ => none

/-- Whether a text can be the name of a group. -/
def isGroupName : List Char → Bool
  | [] => false
  | c :: cs =>
    let start (c : Char) : Bool := c == '_' || (Text.isWordChar c && !Text.isDecimalDigit c)
    start c && cs.all fun c => start c || Text.isDecimalDigit c || c == '.' || c == '[' || c == ']'

/-- What a group begins with. -/
inductive GroupStart where
  /-- A group with its own flags. -/
  | group (flags : Flags)
  /-- Flags for the rest of the group around them. -/
  | flags (flags : Flags)

/-- Read what follows the parenthesis of a group. -/
def readGroupStart (flags : Flags) : List Char → Option (GroupStart × List Char)
  | '?' :: 'P' :: '<' :: rest => named rest
  | '?' :: '<' :: rest =>
    match rest with
    | '=' :: _ => none
    | '!' :: _ => none
    | _ => named rest
  | '?' :: ')' :: _ => none
  | '?' :: rest =>
    match readFlags flags true rest with
    | some (flags, ':' :: rest) => some (.group flags, rest)
    | some (flags, ')' :: rest) => some (.flags flags, rest)
    | _ => none
  | rest => some (.group flags, rest)
where
  named (rest : List Char) : Option (GroupStart × List Char) := do
    let (name, rest) ← Text.cutAt? '>' rest
    if isGroupName name then return (.group flags, rest) else none

/-! ## Patterns -/

/-- The alternatives that are finished and the parts of the one being read, the last part first;
flags stand between the parts without being one. -/
structure Partial where
  done : Option Pattern := none
  parts : List (Option Pattern) := []

namespace Partial

/-- The pattern of the parts. -/
def current (p : Partial) : Pattern :=
  p.parts.foldl (fun acc part =>
    match part with
    | some part => seq part acc
    | none => acc) empty

/-- The pattern of everything that was read. -/
def finish (p : Partial) : Pattern :=
  match p.done with
  | some done => alt done p.current
  | none => p.current

/-- Begin the next alternative. -/
def next (p : Partial) : Partial := ⟨some p.finish, []⟩

/-- Add a part. -/
def push (p : Partial) (part : Option Pattern) : Partial := { p with parts := part :: p.parts }

/-- Repeat the last part. -/
def repeatLast (p : Partial) (least : Nat) (most : Option Nat) : Option Partial :=
  match p.parts with
  | some last :: rest => some { p with parts := some (last.repeated least most) :: rest }
  | _ => none

end Partial

/-- The pattern of an escape outside of a class. -/
def ofEscape (flags : Flags) : Escape → Pattern
  | .char c => one (flags.set (.ofChar c))
  | .set set => one set
  | .check assertion => check assertion

/-- Read the rest of a group: up to its closing parenthesis, or to the end. -/
def readGroup : Nat → Flags → Partial → List Char → Option (Pattern × List Char)
  | 0, _, _, _ => none
  | fuel + 1, flags, p, cs =>
    match skipSpaced flags cs with
    | [] => some (p.finish, [])
    | c :: rest =>
      let repeating (least : Nat) (most : Option Nat) (rest : List Char) :
          Option (Pattern × List Char) := do
        readGroup fuel flags (← p.repeatLast least most) (skipLazy flags rest)
      match c with
      | ')' => some (p.finish, c :: rest)
      | '|' => readGroup fuel flags p.next rest
      | '*' => repeating 0 none rest
      | '+' => repeating 1 none rest
      | '?' => repeating 0 (some 1) rest
      | '{' => do
        let ((least, most), rest) ← readCounts flags rest
        repeating least most rest
      | '(' => do
        match ← readGroupStart flags rest with
        | (.flags flags, rest) => readGroup fuel flags (p.push none) rest
        | (.group inner, rest) =>
          let (sub, rest) ← readGroup fuel inner {} rest
          match rest with
          | ')' :: rest => readGroup fuel flags (p.push (some sub)) rest
          | _ => none
      | '[' => do
        let (set, rest) ← readClass flags (rest.length + 1) rest
        readGroup fuel flags (p.push (some (one set))) rest
      | '\\' => do
        let (escape, rest) ← readEscape rest
        readGroup fuel flags (p.push (some (ofEscape flags escape))) rest
      | '.' =>
        let set := if flags.dotAll then .complement .none else .complement (.ofChar '\n')
        readGroup fuel flags (p.push (some (one set))) rest
      | '^' =>
        let a := if flags.byLine then Assertion.lineStart else .textStart
        readGroup fuel flags (p.push (some (check a))) rest
      | '$' =>
        let a := if flags.byLine then Assertion.lineEnd else .textEnd
        readGroup fuel flags (p.push (some (check a))) rest
      | _ => readGroup fuel flags (p.push (some (one (flags.set (.ofChar c))))) rest

/-- Read a pattern. -/
def read? (text : String) : Option Pattern :=
  match readGroup (text.toList.length + 1) {} {} text.toList with
  | some (p, []) => some p
  | _ => none

end Pattern

end TagTemplates
