import GridPolicy.Pattern.Expression
import GridPolicy.Pattern.Unicode.NameCharacter
import GridPolicy.Text

/-!
# Reading patterns

A pattern is read from the left into an expression, or refused. Each reader
takes the characters still to be read and returns what is left. The readers of
groups and classes call themselves for what is nested; every call has consumed a
character, so the length of the pattern bounds them.

In verbose mode blanks and comments between the parts of a pattern mean nothing.
A comment runs to the end of its line, also past a closing parenthesis.
-/
namespace GridPolicy.Pattern.Parser

/-- Drops blanks and comments; `inComment` is set inside a comment. -/
def dropBlanks (inComment : Bool) : List Char → List Char
  | [] => []
  | c :: r =>
    if inComment then dropBlanks (c != '\n') r
    else if Text.isBlank c then dropBlanks false r
    else if c == '#' then dropBlanks true r
    else c :: r

/-- Passes over what verbose mode ignores. -/
def skip (verbose : Bool) (cs : List Char) : List Char :=
  if verbose then dropBlanks false cs else cs

/-- The next character that is not blank, where the sign that opens a comment is
passed over but the comment's text is not. -/
def peekPast (inComment : Bool) : List Char → Option Char
  | [] => none
  | c :: r =>
    if Text.isBlank c then peekPast inComment r
    else if !inComment && c == '#' then peekPast true r
    else some c

/-- The character that follows, blanks of verbose mode apart. -/
def peek (verbose : Bool) (cs : List Char) : Option Char :=
  if verbose then (peekPast false cs).or cs.head? else cs.head?

/-- The characters of a kind that a text begins with, what verbose mode ignores between
them apart, and what follows them. -/
def takeKind (verbose : Bool) (kind : Char → Bool) : Nat → List Char → List Char × List Char
  | 0, cs => ([], cs)
  | _ + 1, [] => ([], [])
  | steps + 1, c :: r =>
    if kind c then
      let (taken, rest) := takeKind verbose kind steps (skip verbose r)
      (c :: taken, rest)
    else ([], c :: r)

def hexDigit? (c : Char) : Option Nat :=
  let n := c.toNat
  if 48 ≤ n && n ≤ 57 then some (n - 48)
  else if 97 ≤ n && n ≤ 102 then some (n - 87)
  else if 65 ≤ n && n ≤ 70 then some (n - 55)
  else none

/-- The character of a code point, if it is one. -/
def scalar? (n : Nat) : Option Char := if n.isValidChar then some (Char.ofNat n) else none

/-- Exactly `count` hexadecimal digits read onto `acc`. -/
def hexDigits (verbose : Bool) (acc : Nat) : Nat → List Char → Option (Nat × List Char)
  | 0, cs => some (acc, cs)
  | _ + 1, [] => none
  | count + 1, c :: r => do
    let d ← hexDigit? c
    hexDigits verbose (acc * 16 + d) count (skip verbose r)

/-- The characters up to a closing brace, and what follows the brace. -/
def untilBrace (verbose : Bool) : Nat → List Char → Option (List Char × List Char)
  | 0, _ => none
  | steps + 1, cs =>
    match skip verbose cs with
    | [] => none
    | '\x7d' :: r => some ([], r)
    | c :: r => (untilBrace verbose steps r).map fun (name, rest) => (c :: name, rest)

/-- A character written by its code point, from behind the letter that says how
many digits there are unless braces enclose them. -/
def readHex (verbose : Bool) (digits : Nat) (cs : List Char) : Option (Char × List Char) :=
  match skip verbose cs with
  | '\x7b' :: r => do
    let (written, rest) ← untilBrace verbose (r.length + 1) r
    if written.isEmpty then none
    else
      let values ← written.mapM hexDigit?
      let c ← scalar? (values.foldl (fun n d => n * 16 + d) 0)
      return (c, skip verbose rest)
  | cs => do
    let (n, rest) ← hexDigits verbose 0 digits cs
    let c ← scalar? n
    return (c, rest)

/-- The text on both sides of the first occurrence of a separator. -/
def cutQuery (separator : String) (name : List Char) : Option Query :=
  (Text.cutAt separator.toList name).map fun (before, after) =>
    .valued (String.ofList before) (String.ofList after)

/-- A property class from behind its letter, and whether its sign of inequality
turns it around. -/
def readProperty (verbose : Bool) (cs : List Char) : Option (Query × Bool × List Char) :=
  match skip verbose cs with
  | [] => none
  | '\\' :: _ => none
  | '\x7b' :: r => do
    let (name, rest) ← untilBrace verbose (r.length + 1) r
    match cutQuery "!=" name with
    | some query => return (query, true, rest)
    | none =>
      let query := (cutQuery ":" name).or (cutQuery "=" name)
      return (query.getD (.named (String.ofList name)), false, rest)
  | c :: r => some (.named (String.ofList [c]), false, skip verbose r)

/-- What one character, or one escape, can be. -/
inductive Primitive where
  | literal (c : Char)
  | byte (c : Char)
  | dot
  | assertion (kind : Assertion)
  | short (kind : ShortClass) (negated : Bool)
  | property (query : Query) (negated : Bool)

def isNameChar (c : Char) : Bool := c.isAlpha || c == '-'

/-- The half boundary of a name. -/
def boundary? : String → Option Assertion
  | "start" => some .wordStart
  | "end" => some .wordEnd
  | "start-half" => some .wordStartHalf
  | "end-half" => some .wordEndHalf
  | _ => none

/-- What follows the letter of a word boundary: braces with the name of a half
boundary, or anything that does not begin like one. -/
def readBoundary (verbose : Bool) (cs : List Char) : Option (Assertion × List Char) :=
  match cs with
  | '\x7b' :: r =>
    match skip verbose r with
    | [] => none
    | c :: s =>
      if !isNameChar c then some (.wordBoundary, cs)
      else
        match takeKind verbose isNameChar (s.length + 1) (c :: s) with
        | (name, '\x7d' :: rest) =>
          (boundary? (String.ofList name)).map fun kind => (kind, rest)
        | _ => none
  | _ => some (.wordBoundary, cs)

/-- An escape, from behind the backslash. Any ASCII character that is not a
letter, a digit or an angle bracket stands for itself. -/
def readEscape (verbose : Bool) : List Char → Option (Primitive × List Char)
  | [] => none
  | 'x' :: r =>
    let inBraces := (skip verbose r).head? == some '\x7b'
    (readHex verbose 2 r).map fun (c, rest) => (if inBraces then .literal c else .byte c, rest)
  | 'u' :: r => (readHex verbose 4 r).map fun (c, rest) => (.literal c, rest)
  | 'U' :: r => (readHex verbose 8 r).map fun (c, rest) => (.literal c, rest)
  | 'p' :: r => (readProperty verbose r).map fun (q, turned, rest) => (.property q turned, rest)
  | 'P' :: r => (readProperty verbose r).map fun (q, turned, rest) => (.property q (!turned), rest)
  | 'd' :: r => some (.short .digit false, r)
  | 's' :: r => some (.short .space false, r)
  | 'w' :: r => some (.short .word false, r)
  | 'D' :: r => some (.short .digit true, r)
  | 'S' :: r => some (.short .space true, r)
  | 'W' :: r => some (.short .word true, r)
  | 'a' :: r => some (Primitive.literal '\x07', r)
  | 'f' :: r => some (Primitive.literal '\x0c', r)
  | 't' :: r => some (Primitive.literal '\t', r)
  | 'n' :: r => some (Primitive.literal '\n', r)
  | 'r' :: r => some (Primitive.literal '\r', r)
  | 'v' :: r => some (Primitive.literal '\x0b', r)
  | 'A' :: r => some (.assertion .textStart, r)
  | 'z' :: r => some (.assertion .textEnd, r)
  | 'b' :: r => (readBoundary verbose r).map fun (kind, rest) => (.assertion kind, rest)
  | 'B' :: r => some (.assertion .notWordBoundary, r)
  | '<' :: r => some (.assertion .wordStart, r)
  | '>' :: r => some (.assertion .wordEnd, r)
  | c :: r =>
    if c.toNat < 128 && !c.isAlphanum then some (Primitive.literal c, r) else none

/-- A count of 32 bits with blanks around it. -/
def readCount (verbose : Bool) (cs : List Char) : Option (Nat × List Char) :=
  let (digits, rest) := takeKind verbose Char.isDigit (cs.length + 1) (cs.dropWhile Text.isBlank)
  let n := digits.foldl (fun n d => n * 10 + (d.toNat - 48)) 0
  if digits.isEmpty || 4294967295 < n then none else some (n, rest.dropWhile Text.isBlank)

/-- The end of the bounds of a counted repetition, from behind the comma. -/
def readUpperBound (verbose : Bool) (low : Nat) (cs : List Char) :
    Option (Nat × Option Nat × List Char) :=
  match skip verbose cs with
  | '\x7d' :: r => some (low, none, r)
  | r => do
    let (high, rest) ← readCount verbose r
    match rest with
    | '\x7d' :: r => if low ≤ high then some (low, some high, r) else none
    | _ => none

/-- The bounds of a counted repetition, from behind the opening brace. -/
def readBounds (verbose : Bool) (cs : List Char) : Option (Nat × Option Nat × List Char) := do
  let (low, rest) ← readCount verbose (skip verbose cs)
  match rest with
  | '\x7d' :: r => some (low, some low, r)
  | ',' :: r => readUpperBound verbose low r
  | _ => none

/-- Whether a repetition is greedy: the sign that makes it reluctant does not follow. -/
def readGreed : List Char → Bool × List Char
  | '?' :: r => (false, r)
  | cs => (true, cs)

/-- Repeats the last item read, from behind the sign of the repetition. A change of
flags cannot be repeated. -/
def repeatLast (low : Nat) (high : Option Nat) (items : List Expression) (cs : List Char) :
    Option (List Expression × List Char) :=
  let (greedy, rest) := readGreed cs
  match items with
  | [] => none
  | .empty :: _ => none
  | .flags _ :: _ => none
  | e :: r => some (.repetition low high greedy e :: r, rest)

def asciiClass? : String → Option AsciiClass
  | "alnum" => some .alnum
  | "alpha" => some .alpha
  | "ascii" => some .ascii
  | "blank" => some .blank
  | "cntrl" => some .cntrl
  | "digit" => some .digit
  | "graph" => some .graph
  | "lower" => some .lower
  | "print" => some .print
  | "punct" => some .punct
  | "space" => some .space
  | "upper" => some .upper
  | "word" => some .word
  | "xdigit" => some .xdigit
  | _ => none

/-- The name of an ASCII class up to its closing colon and bracket. -/
def readAsciiName (negated : Bool) (cs : List Char) : Option (SetExpression × List Char) :=
  let name := cs.takeWhile fun c => c != ':'
  match cs.dropWhile fun c => c != ':' with
  | ':' :: ']' :: rest =>
    (asciiClass? (String.ofList name)).map fun kind => (.ascii kind negated, rest)
  | _ => none

/-- A named ASCII class, from behind its opening bracket. -/
def readAsciiClass : List Char → Option (SetExpression × List Char)
  | ':' :: '^' :: r => readAsciiName true r
  | ':' :: r => readAsciiName false r
  | _ => none

/-- One end of a range, or an item of its own. -/
def readSetItem (verbose : Bool) : List Char → Option (Primitive × List Char)
  | [] => none
  | '\\' :: r => readEscape verbose r
  | c :: r => some (Primitive.literal c, r)

/-- The character that an end of a range stands for. -/
def Primitive.character? : Primitive → Option Char
  | .literal c => some c
  | .byte c => some c
  | _ => none

def Primitive.setItem? : Primitive → Option SetExpression
  | .literal c => some (.literal c)
  | .byte c => some (.literal c)
  | .short kind negated => some (.short kind negated)
  | .property query negated => some (.property query negated)
  | _ => none

/-- What the first item of a range is the beginning of. A hyphen before a closing
bracket or another hyphen joins nothing. -/
def readRangeEnd (verbose : Bool) (first : Primitive) (cs : List Char) :
    Option (SetExpression × List Char) :=
  match skip verbose cs with
  | [] => none
  | '-' :: r =>
    if peek verbose r == some ']' || peek verbose r == some '-' then do
      let item ← first.setItem?
      return (item, '-' :: r)
    else do
      let (last, rest) ← readSetItem verbose (skip verbose r)
      let a ← first.character?
      let b ← last.character?
      if a.toNat ≤ b.toNat then return (.range a b, rest) else none
  | rest => do
    let item ← first.setItem?
    return (item, rest)

/-- A range of characters or a single item of a class. -/
def readSetRange (verbose : Bool) (cs : List Char) : Option (SetExpression × List Char) := do
  let (first, rest) ← readSetItem verbose cs
  readRangeEnd verbose first rest

/-- The hyphens that a class begins with stand for themselves. -/
def leadingHyphens (verbose : Bool) : Nat → List Char → List SetExpression × List Char
  | 0, cs => ([], cs)
  | steps + 1, cs =>
    match cs with
    | '-' :: r =>
      let (items, rest) := leadingHyphens verbose steps (skip verbose r)
      (.literal '-' :: items, rest)
    | _ => ([], cs)

/-- The items that a class begins with: hyphens, or a closing bracket that stands for
itself. -/
def readSetStart (verbose : Bool) (cs : List Char) : List SetExpression × List Char :=
  match leadingHyphens verbose (cs.length + 1) cs with
  | ([], ']' :: r) => ([.literal ']'], skip verbose r)
  | (items, rest) => (items.reverse, rest)

/-- The beginning of a class from behind its opening bracket: the sign of negation, and
the items that stand for themselves there. -/
def readSetOpening (verbose : Bool) (cs : List Char) :
    Bool × List SetExpression × List Char :=
  match skip verbose cs with
  | '^' :: r => (true, readSetStart verbose (skip verbose r))
  | r => (false, readSetStart verbose r)

/-- The operation that two signs in a row stand for. -/
def setOperation? : List Char → Option (SetOperation × List Char)
  | '&' :: '&' :: r => some (.intersection, r)
  | '-' :: '-' :: r => some (.difference, r)
  | '~' :: '~' :: r => some (.symmetricDifference, r)
  | _ => none

/-- Closes an operation over what was read behind its sign. -/
def closeOperation (pending : Option (SetOperation × SetExpression)) (items : List SetExpression) :
    SetExpression :=
  let right := SetExpression.ofItems items.reverse
  match pending with
  | some (kind, left) => .operation kind left right
  | none => right

/-- The inside of a class up to and with its closing bracket. Operations bind
alike and to the left; `items` holds those behind the last sign, last first. -/
def readSet (verbose : Bool) : Nat → Option (SetOperation × SetExpression) →
    List SetExpression → List Char → Option (SetExpression × List Char)
  | 0, _, _, _ => none
  | steps + 1, pending, items, cs =>
    match skip verbose cs with
    | [] => none
    | ']' :: r => some (closeOperation pending items, r)
    | '[' :: r =>
      match readAsciiClass r with
      | some (item, rest) => readSet verbose steps pending (item :: items) rest
      | none =>
        let (negated, first, rest) := readSetOpening verbose r
        match readSet verbose steps none first rest with
        | some (inner, rest) =>
          readSet verbose steps pending (.bracketed negated inner :: items) rest
        | none => none
    | cs =>
      match setOperation? cs with
      | some (kind, rest) =>
        readSet verbose steps (some (kind, closeOperation pending items)) [] rest
      | none =>
        match readSetRange verbose cs with
        | some (item, rest) => readSet verbose steps pending (item :: items) rest
        | none => none

/-- A class from behind its opening bracket. -/
def readClass (verbose : Bool) (cs : List Char) : Option (Expression × List Char) :=
  let (negated, first, rest) := readSetOpening verbose cs
  (readSet verbose (cs.length + 1) none first rest).map fun (inner, rest) =>
    (.bracketed negated inner, rest)

def flag? : Char → Option Flag
  | 'i' => some .ignoreCase
  | 'm' => some .multiLine
  | 's' => some .dotAll
  | 'U' => some .swapGreed
  | 'u' => some .unicode
  | 'R' => some .crlf
  | 'x' => some .verbose
  | _ => none

/-- A change of flags up to and with its closing sign, and whether a group
follows it. A flag stands once, and so does the minus sign, which something has
to follow. -/
def readFlags (seen : FlagChange) (on hanging : Bool) :
    List Char → Option (FlagChange × Bool × List Char)
  | [] => none
  | ')' :: r => if hanging then none else some (seen.reverse, false, r)
  | ':' :: r => if hanging then none else some (seen.reverse, true, r)
  | '-' :: r => if on then readFlags seen false true r else none
  | c :: r =>
    match flag? c with
    | none => none
    | some flag =>
      if seen.any fun item => item.1 == flag then none
      else readFlags ((flag, on) :: seen) on false r

/-- Letters, and the low line, may begin the name of a group. -/
def isNameStart (c : Char) : Bool := c == '_' || Unicode.isLetter c

def isNameRest (c : Char) : Bool :=
  c == '_' || c == '.' || c == '[' || c == ']' || Unicode.isAlphanumeric c

/-- The name of a group up to and with the angle bracket that closes it. -/
def readGroupName (cs : List Char) : Option (String × List Char) :=
  let name := cs.takeWhile fun c => c != '>'
  match name, cs.dropWhile fun c => c != '>' with
  | c :: r, '>' :: rest =>
    if isNameStart c && r.all isNameRest then some (String.ofList (c :: r), rest) else none
  | _, _ => none

/-- What an opening parenthesis begins. -/
inductive Opening where
  | change (change : FlagChange)
  | group (change : FlagChange) (name : Option String) (captures : Bool)

/-- The beginning of a group with a name. -/
def readNamed (cs : List Char) : Option (Opening × List Char) :=
  (readGroupName cs).map fun (name, rest) => (.group [] (some name) true, rest)

/-- What a change of flags begins. By itself it has to change something. -/
def flagOpening : FlagChange × Bool × List Char → Option (Opening × List Char)
  | (change, true, rest) => some (.group change none false, rest)
  | ([], false, _) => none
  | (change, false, rest) => some (.change change, rest)

/-- What follows the question mark behind an opening parenthesis. -/
def readMarked : List Char → Option (Opening × List Char)
  | '=' :: _ => none
  | '!' :: _ => none
  | '<' :: '=' :: _ => none
  | '<' :: '!' :: _ => none
  | 'P' :: '<' :: r => readNamed r
  | '<' :: r => readNamed r
  | r => (readFlags [] true false r).bind flagOpening

/-- What follows an opening parenthesis, up to the contents of the group. -/
def readOpening (verbose : Bool) (cs : List Char) : Option (Opening × List Char) :=
  match skip verbose cs with
  | '?' :: r => readMarked r
  | r => some (.group [] none true, r)

def Primitive.expression : Primitive → Expression
  | .literal c => .literal c
  | .byte c => .byte c
  | .dot => .dot
  | .assertion kind => .assertion kind
  | .short kind negated => .short kind negated
  | .property query negated => .property query negated

/-- One item that is neither a group nor a class. -/
def readPrimitive (verbose : Bool) : List Char → Option (Primitive × List Char)
  | [] => none
  | '\\' :: r => readEscape verbose r
  | '.' :: r => some (.dot, r)
  | '^' :: r => some (.assertion .lineStart, r)
  | '$' :: r => some (.assertion .lineEnd, r)
  | c :: r => some (Primitive.literal c, r)

/-- All branches of a group; `branches` and `items` hold those read, last first. -/
def closeBranches (branches items : List Expression) : Expression :=
  .ofBranches ((Expression.ofItems items.reverse :: branches).reverse)

/-- The contents of a group up to its closing parenthesis or the end of the
pattern, neither of which is consumed. `names` are the group names in use. -/
def readGroup : Nat → Bool → List String → List Expression → List Expression → List Char →
    Option (Expression × List String × List Char)
  | 0, _, _, _, _, _ => none
  | steps + 1, verbose, names, branches, items, cs =>
    match skip verbose cs with
    | [] => some (closeBranches branches items, names, [])
    | ')' :: r => some (closeBranches branches items, names, ')' :: r)
    | '|' :: r =>
      readGroup steps verbose names (.ofItems items.reverse :: branches) [] r
    | '[' :: r =>
      match readClass verbose r with
      | some (e, rest) => readGroup steps verbose names branches (e :: items) rest
      | none => none
    | '?' :: r =>
      match repeatLast 0 (some 1) items r with
      | some (items, rest) => readGroup steps verbose names branches items rest
      | none => none
    | '*' :: r =>
      match repeatLast 0 none items r with
      | some (items, rest) => readGroup steps verbose names branches items rest
      | none => none
    | '+' :: r =>
      match repeatLast 1 none items r with
      | some (items, rest) => readGroup steps verbose names branches items rest
      | none => none
    | '\x7b' :: r =>
      match readBounds verbose r with
      | some (low, high, rest) =>
        match repeatLast low high items (skip verbose rest) with
        | some (items, rest) => readGroup steps verbose names branches items rest
        | none => none
      | none => none
    | '(' :: r =>
      match readOpening verbose r with
      | some (.change change, rest) =>
        readGroup steps ((change.get? .verbose).getD verbose) names branches
          (.flags change :: items) rest
      | some (.group change name captures, rest) =>
        if name.any names.contains then none
        else
          match readGroup steps ((change.get? .verbose).getD verbose) (name.toList ++ names)
              [] [] rest with
          | some (inner, names, ')' :: rest) =>
            readGroup steps verbose names branches (.group change captures inner :: items) rest
          | _ => none
      | none => none
    | cs =>
      match readPrimitive verbose cs with
      | some (item, rest) =>
        readGroup steps verbose names branches (item.expression :: items) rest
      | none => none

/-- The whole text as one expression. A parenthesis that closes nothing is
refused, and so is nesting deeper than 250. -/
def parse (text : List Char) : Option Expression :=
  match readGroup (text.length + 1) false [] [] [] text with
  | some (e, _, []) => if e.depth ≤ 250 then some e else none
  | _ => none

end GridPolicy.Pattern.Parser
