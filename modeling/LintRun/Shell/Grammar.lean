import LintRun.Shell.Cursor

/-!
# The written form of shell scripts

`readLine` reads the commands up to the end of a line; commands that span several lines are
read to their end.

A call that takes nothing leads to a few others at most before a character is taken, so a
multiple of the number of characters bounds the depth of calls.
-/

namespace LintRun.Shell

open Parse

/-! ## 1. Parts of words -/

/-- How the characters of a word are taken. -/
inductive Quoting
  | bare
  | double
  | single
  | arithmetic
  deriving DecidableEq, Inhabited

/-- Where in a word a reader is. -/
structure Frame where
  quoting : Quoting := .bare
  /-- Whether text is taken as it is. -/
  isQuoted : Bool := false
  /-- How many braces are open. -/
  braces : Nat := 0
  /-- How many of them were opened in quotes. -/
  quotedBraces : Nat := 0
  /-- Whether quotes are open inside braces. -/
  isInner : Bool := false
  /-- How many brackets are open in an expression. -/
  brackets : Nat := 0
  deriving Inhabited

/-- What a stretch of a word goes on to. -/
inductive Goal
  | wordEnd
  | brace
  | expressionEnd
  deriving DecidableEq, Inhabited

/-- A word that is being read. -/
structure Built where
  /-- The finished pieces, latest first. -/
  pieces : List Piece := []
  /-- The open literal, latest first. -/
  run : Chars := []
  runIsQuoted : Bool := false
  /-- Whether there was a quote. -/
  isQuoted : Bool := false
  deriving Inhabited

namespace Built

/-- Closes the open literal. -/
def flush (b : Built) : Built :=
  if b.run.isEmpty then b
  else { b with pieces := .literal b.runIsQuoted b.run.reverse :: b.pieces, run := [] }

/-- Adds a character. -/
def add (b : Built) (isQuoted : Bool) (c : Char) : Built :=
  if b.runIsQuoted = isQuoted then { b with run := c :: b.run }
  else { b.flush with run := [c], runIsQuoted := isQuoted }

/-- Adds a piece. -/
def push (b : Built) (p : Piece) : Built :=
  let b := b.flush
  { b with pieces := p :: b.pieces }

/-- Notes a quote, which makes a word even if nothing is in it. -/
def quote (b : Built) : Built := { b.push (.literal true []) with isQuoted := true }

/-- The word. -/
def word (b : Built) : Word := b.flush.pieces.reverse

end Built

/-- The characters that end a bare word. -/
def isMeta (c : Char) : Bool :=
  c == ' ' || c == '\t' || c == ';' || c == '&' || c == '|' || c == '<' || c == '>' ||
    c == '(' || c == ')'

/-- The end of a text below a line: how much of the rest belongs to it, if it is here. -/
def markEnd? (mark : Awaited) (rest : Chars) : Option Chars :=
  let rest := if mark.strips then rest.dropWhile (· == '\t') else rest
  if mark.mark.isPrefixOf rest then
    match rest.drop mark.mark.length with
    | [] => some []
    | '\n' :: after => some after
    | _ => none
  else none

/-- Comes to the start of a line in a text below: whether the text ends here. -/
def lineStart : Option Awaited → Parse Bool
  | none => return false
  | some mark => modifyGet fun c =>
    match markEnd? mark c.rest with
    | some after => (true, { c with rest := after, line := c.line + 1 })
    | none =>
      (false, if mark.strips then { c with rest := c.rest.dropWhile (· == '\t') } else c)

/-- The text up to a backquote, and what is left of the input. -/
def backquoted (isQuoted : Bool) : Nat → Parse Chars
  | 0 => fault "EOF in backquote substitution"
  | n + 1 => do
    match ← nextEaten with
    | none => fault "EOF in backquote substitution"
    | some '\x60' => return []
    | some '\\' => do
      match ← next with
      | none => fault "EOF in backquote substitution"
      | some c =>
        if c == '\n' then countLine
        let more ← backquoted isQuoted n
        return if c == '\\' || c == '\x60' || c == '$' || (isQuoted && c == '"') then c :: more
          else '\\' :: c :: more
    | some c =>
      if c == '\n' then countLine
      return c :: (← backquoted isQuoted n)

/-- What is read between the name of a parameter and the closing brace. -/
inductive Operator
  | plain
  | length
  | word (change : Word → Change)
  | glob (change : Word → Change)
  | invalid

/-- The operator that signs after the name of a parameter make. -/
def parameterOperator : Parse Operator := do
  let orEmpty ← accepts ':'
  match ← nextEaten with
  | some '\x7d' => return if orEmpty then .invalid else .plain
  | some '-' => return .word (.orElse orEmpty)
  | some '+' => return .word (.instead orEmpty)
  | some '?' => return .word (.orFail orEmpty)
  | some '=' => return .word (.orAssign orEmpty)
  | some c =>
    if orEmpty || !(c == '%' || c == '#') then
      modify fun s => { s with rest := c :: s.rest }
      return .invalid
    else
      let longest ← accepts c
      return .glob (if c == '#' then .withoutStart longest else .withoutEnd longest)
  | none => return .invalid

/-- Puts a character back. -/
def unread (c : Option Char) : Parse Unit :=
  modify fun s => { s with rest := c.toList ++ s.rest }

/-- The name of a parameter between braces and what follows it. -/
def bracedName (fuel : Nat) : Parse (Chars × Operator) := do
  match ← peek with
  | some c =>
    if isNameStart c then
      let name ← takeWhile isNameChar fuel
      return (name, ← parameterOperator)
    else if isDecimal c then
      let digits ← takeWhile isDecimal fuel
      return (digits, ← parameterOperator)
    else if c == '#' then
      let _ ← next
      match ← peek with
      | some d =>
        if isNameStart d || isDecimal d then
          let name ← takeWhile (if isDecimal d then isDecimal else isNameChar) fuel
          return (name, .length)
        else
          let _ ← next
          let after ← peek
          if d == '\x7d' || after != some '\x7d' then
            unread (some d)
            return (['#'], ← parameterOperator)
          else if isSign d then return ([d], .length)
          else return (['#'], .invalid)
      | none => return (['#'], .invalid)
    else if isSign c then
      let _ ← next
      return ([c], ← parameterOperator)
    else return ([], .invalid)
  | none => return ([], .invalid)

/-- The frame for what stands between the braces of a parameter, and whether it is a new one. -/
def Frame.inside (f : Frame) (isGlob : Bool) : Frame × Bool :=
  let quoting := if isGlob then .bare else if f.quoting = .arithmetic then .double else f.quoting
  let isNew := quoting != f.quoting || f.isInner
  let f : Frame := if isNew then { quoting, isQuoted := quoting != .bare } else f
  ({ f with
      braces := f.braces + 1
      quotedBraces := if f.isQuoted then f.quotedBraces + 1 else f.quotedBraces }, isNew)

/-- A frame after a closing brace. -/
def Frame.closed (f : Frame) : Frame :=
  { f with braces := f.braces - 1, quotedBraces := f.quotedBraces - 1 }

/-- A frame after a double quote, and the same for one that ends quotes. -/
def Frame.doubleQuote (f : Frame) (opens : Bool) : Frame :=
  let f : Frame :=
    if opens then { f with quoting := .double, isQuoted := true }
    else if f.quotedBraces = 0 then { f with quoting := .bare, isQuoted := false }
    else f
  if f.braces = 0 then f else { f with isInner := !f.isInner }

/-- A frame after the single quote that ends quotes. -/
def Frame.singleEnd (f : Frame) : Frame :=
  if f.quotedBraces = 0 then { f with quoting := .bare, isQuoted := false } else f

/-- Complains if a word must not end in a frame. -/
def Frame.checkEnd (f : Frame) (mark : Option Awaited) : Parse Unit :=
  if f.quoting = .arithmetic then fault "Missing '))'"
  else if f.quoting != .bare && mark.isNone then fault "Unterminated quoted string"
  else if f.braces != 0 then fault "Missing '\x7d'"
  else pure ()

/-- What a redirection sign opens, the sign's first character taken. -/
def redirectionSign (c : Char) : Parse (Nat × Opened) := do
  if c == '>' then
    if ← accepts '>' then return (1, .file .append)
    else if ← accepts '|' then return (1, .file .overwrite)
    else if ← accepts '&' then return (1, .duplicate)
    else return (1, .file .write)
  else if ← accepts '<' then return (0, .here (← accepts '-'))
  else if ← accepts '&' then return (0, .duplicate)
  else if ← accepts '>' then return (0, .file .update)
  else return (0, .file .read)

/-- Takes a redirection if a word of at most one digit is followed by its sign. -/
def redirection? (b : Built) : Parse Bool := do
  let stream? : Option (Option Nat) := match b.word with
    | [] => if b.isQuoted then none else some none
    | [.literal false [d]] => if isDecimal d then some (some (numberOf 10 [d])) else none
    | _ => none
  match ← peek, stream? with
  | some c, some stream =>
    if c == '>' || c == '<' then
      let _ ← next
      let (usual, opened) ← redirectionSign c
      modify fun s => { s with opened := (stream.getD usual, opened) }
      return true
    else return false
  | _, _ => return false

/-- Replaces a name by its text if it has one and is not being replaced. -/
def replaceAlias (name : Chars) : Parse Bool := modifyGet fun c =>
  match c.aliases.lookup name with
  | none => (false, c)
  | some text =>
    let left := c.rest.length
    let replacing := c.replacing.filter fun r => left > r.2
    if replacing.any (·.1 == name) then (false, { c with replacing })
    else (true, { c with rest := text ++ c.rest, replacing := (name, left) :: replacing })

/-! ## 2. Commands -/

/-- The special commands of the interpreter, whose names no function can have. -/
def specialNames : List String := [
  ".", ":", "break", "continue", "eval", "exec", "exit", "export", "local", "readonly", "return",
  "set", "shift", "times", "trap", "unset"]

/-- Two commands one after the other. -/
def joinedCommands : Option Command → Command → Command
  | none, c => c
  | some a, c => .sequence a c

/-- A command with redirections. -/
def withRedirections (line : Nat) (c : Command) (rs : List Redirection) : Command :=
  if rs.isEmpty then c
  else
    match c with
    | .subshell l body _ => .subshell l body rs
    | c => .redirected line c rs

/-- A command that is not waited for. -/
def inBackground : Command → Command
  | .redirected line body rs => .background line body rs
  | c => .background 0 c []

/-- All arguments, each a word. -/
def allArguments : Word := [.literal true [], .parameter true ['@'] .none]

mutual

/-- A stretch of a word up to its goal. -/
def stretch : Nat → Option Awaited → Goal → Frame → Built → Parse (Built × Frame)
  | 0, _, _, _, _ => fault "out of memory"
  | n + 1, mark, goal, f, b => do
    let more (f : Frame) (b : Built) : Parse (Built × Frame) := stretch n mark goal f b
    let plain (c : Char) : Parse (Built × Frame) := more f (b.add f.isQuoted c)
    if f.quoting != .single then let _ ← peek
    let ahead := (← get).rest
    match ahead with
    | [] =>
      f.checkEnd mark
      return (b, f)
    | c :: _ =>
      if f.quoting = .bare && f.braces = 0 && (c == '\n' || isMeta c) then return (b, f)
      let _ ← next
      if c == '\n' then
        countLine
        if ← lineStart mark then
          f.checkEnd mark
          return (b.add f.isQuoted c, f)
        else plain c
      else
        match f.quoting with
        | .single =>
          if c == '\'' && mark.isNone then more f.singleEnd b.quote
          else more f (b.add true c)
        | quoting =>
          if c == '\\' then
            match ← next with
            | none => more f (b.add true '\\')
            | some d =>
              let isTaken := !f.isQuoted || d == '\\' || d == '\x60' || d == '$' ||
                (d == '"' && !(mark.isSome && f.braces = 0)) || (d == '\x7d' && f.braces != 0)
              let b := { b with isQuoted := true }
              more f (if isTaken then b.add true d else (b.add true '\\').add true d)
          else if c == '$' then
            let (b, f) ← dollar n mark f b
            more f b
          else if c == '\x60' then
            if (← get).checks.isMark then more f ({ b with isQuoted := true }.add f.isQuoted c)
            else
              let text ← backquoted f.isQuoted (ahead.length + 1)
              let body ← innerScript n text
              more f (b.push (.output f.isQuoted body))
          else if c == '\x7d' && !f.isInner && f.braces != 0 then
            return (b, f.closed)
          else if quoting = .arithmetic then
            if c == '(' then more { f with brackets := f.brackets + 1 } (b.add true c)
            else if c == ')' then
              if f.brackets != 0 then more { f with brackets := f.brackets - 1 } (b.add true c)
              else if ← accepts ')' then return (b, f)
              else plain c
            else plain c
          else if quoting = .bare && c == '\'' then
            more { f with quoting := .single } (if mark.isNone then b.quote else b)
          else if c == '"' then
            if quoting = .bare then
              more (f.doubleQuote true) (if mark.isNone then b.quote else b)
            else if mark.isSome && f.braces = 0 then plain c
            else more (f.doubleQuote false) (if mark.isNone then b.quote else b)
          else plain c

/-- What a dollar sign stands for. -/
def dollar : Nat → Option Awaited → Frame → Built → Parse (Built × Frame)
  | 0, _, _, _ => fault "out of memory"
  | n + 1, mark, f, b => do
    let q := f.isQuoted
    let c? ← peek
    let c := c?.getD ' '
    if (← get).checks.isMark then return (b.add q '$', f)
    else if c == '(' then
      let _ ← next
      if ← accepts '(' then
        let (inside, _) ← stretch n mark .expressionEnd
          { quoting := .arithmetic, isQuoted := true } {}
        return (b.push (.arithmetic q inside.word), f)
      else
        let body ← bracketed n
        return (b.push (.output q body), f)
    else if c == '\x7b' then
      let _ ← next
      let (name, operator) ← bracedName (← get).rest.length
      let within (isGlob : Bool) (change : Word → Change) : Parse (Built × Frame) := do
        let (inner, isNew) := f.inside isGlob
        let (inside, after) ← stretch n mark .brace inner {}
        return (b.push (.parameter q name (change inside.word)), if isNew then f else after)
      match operator with
      | .plain => return (b.push (.parameter q name .none), f)
      | .length => within false fun _ => .length
      | .word change => within false change
      | .glob change => within true change
      | .invalid => within false fun _ => .invalid
    else if isNameStart c then
      let name ← takeWhile isNameChar (← get).rest.length
      return (b.push (.parameter q name .none), f)
    else if c?.isSome && (isDecimal c || isSign c) then
      let _ ← next
      return (b.push (.parameter q [c] .none), f)
    else return (b.add q '$', f)

/-- The commands up to a closing bracket. -/
def bracketed : Nat → Parse (Option Command)
  | 0 => fault "out of memory"
  | n + 1 => do
    let before ← get
    set { before with awaited := [], checks := {} }
    let body ← list n false true none
    if (← token n) != .closeBracket then unexpected (some .closeBracket)
    modify fun c =>
      { c with awaited := before.awaited, checks := before.checks, isPutBack := false }
    return body

/-- The commands of a text of its own. -/
def innerScript : Nat → Chars → Parse (Option Command)
  | 0, _ => fault "out of memory"
  | n + 1, text => do
    let before ← get
    set { before with rest := text, line := 1, awaited := [], checks := {}, isPutBack := false }
    let body ← list n false true none
    modify fun c => { before with documents := c.documents }
    return body

/-- The next token without regard to reserved words. -/
def rawToken : Nat → Parse Token
  | 0 => fault "out of memory"
  | n + 1 => do
    let before ← get
    if before.isPutBack then
      set { before with isPutBack := false }
      return before.last
    skipBlanks
    let found (t : Token) : Parse Token := modifyGet fun c => (t, { c with last := t })
    let sign (t : Token) : Parse Token := do
      let _ ← next
      found t
    let doubled (c : Char) (double single : Token) : Parse Token := do
      let _ ← next
      found (if ← accepts c then double else single)
    match ← peek with
    | none => found .endOfFile
    | some '\n' => do
      countLine
      sign .newline
    | some '&' => doubled '&' .andIf .ampersand
    | some '|' => doubled '|' .orIf .bar
    | some ';' => doubled ';' .endOfCase .semicolon
    | some '(' => sign .openBracket
    | some ')' => sign .closeBracket
    | some _ => do
      let (b, f) ← stretch n none .wordEnd {} {}
      f.checkEnd none
      if ← redirection? b then found .redirection
      else
        modify fun c => { c with word := b.word, wordIsQuoted := b.isQuoted }
        found .word

/-- Passes over line ends if asked to. -/
def tokenAfterLines : Nat → Bool → Parse Token
  | 0, _ => fault "out of memory"
  | n + 1, passes => do
    let t ← rawToken n
    if passes && t = .newline then
      documents n
      check {}
      tokenAfterLines n true
    else return t

/-- The next token, looked at as was asked for. -/
def token : Nat → Parse Token
  | 0 => fault "out of memory"
  | n + 1 => do
    let checks := (← get).checks
    let t ← tokenAfterLines n checks.newlines
    let c ← get
    let checks := checks.or c.checks
    check {}
    if t != .word || c.wordIsQuoted then return t
    match c.word.plainText? with
    | none => return t
    | some text =>
      let reserved :=
        if checks.keywords then Token.reservedWords.lookup (String.ofList text) else none
      match reserved with
      | some keyword => modifyGet fun c => (keyword, { c with last := keyword })
      | none =>
        if checks.aliases then
          if ← replaceAlias text then
            check checks
            token n
          else return t
        else return t

/-- Reads the texts that stand below the line that has ended. -/
def documents : Nat → Parse Unit
  | 0 => fault "out of memory"
  | n + 1 => do
    let awaited := (← get).awaited
    modify fun c => { c with awaited := [] }
    documentsOf n awaited

/-- Reads texts that stand below. -/
def documentsOf : Nat → List Awaited → Parse Unit
  | 0, _ => fault "out of memory"
  | _, [] => return ()
  | n + 1, mark :: marks => do
    let quoting : Quoting := if mark.isQuoted then .single else .double
    let word ←
      if ← lineStart (some mark) then pure []
      else do
        let (b, _) ← stretch n (some mark) .wordEnd { quoting, isQuoted := true } {}
        pure b.word
    modify fun c => { c with documents := c.documents.setIfInBounds mark.document word }
    documentsOf n marks

/-- A list of commands.  At the top it ends with its line; elsewhere line ends separate
commands, and it may be empty if that is allowed. -/
def list : Nat → Bool → Bool → Option Command → Parse (Option Command)
  | 0, _, _, _ => fault "out of memory"
  | n + 1, isTop, mayEnd, before => do
    check { commandChecks with newlines := !isTop }
    match ← token n with
    | .newline =>
      documents n
      return before
    | .endOfFile =>
      documents n
      putBack
      modify fun c => { c with last := .endOfFile }
      return before
    | t =>
      putBack
      if !isTop && mayEnd && t.endsList then return before
      let first ← andOr n
      let t ← token n
      let whole := joinedCommands before (if t = .ampersand then inBackground first else first)
      match t with
      | .endOfFile =>
        documents n
        putBack
        modify fun c => { c with last := .endOfFile }
        return some whole
      | .newline => do
        putBack
        list n isTop true (some whole)
      | .ampersand | .semicolon => list n isTop true (some whole)
      | _ =>
        if isTop then unexpected
        putBack
        return some whole

/-- Pipelines joined by `&&` and `||`. -/
def andOr : Nat → Parse Command
  | 0 => fault "out of memory"
  | n + 1 => do
    let first ← pipeline n
    andOrRest n first

/-- The rest of joined pipelines. -/
def andOrRest : Nat → Command → Parse Command
  | 0, _ => fault "out of memory"
  | n + 1, first => do
    match ← token n with
    | .andIf =>
      check commandChecks
      let second ← pipeline n
      andOrRest n (.both first second)
    | .orIf =>
      check commandChecks
      let second ← pipeline n
      andOrRest n (.either first second)
    | _ =>
      putBack
      return first

/-- A pipeline. -/
def pipeline : Nat → Parse Command
  | 0 => fault "out of memory"
  | n + 1 => do
    let isNegated := (← token n) = .bang
    if isNegated then check { keywords := true, aliases := true } else putBack
    let first ← command n
    let stages ← pipelineRest n [first]
    let whole := match stages with
      | [c] => c
      | cs => .pipeline cs
    return if isNegated then .negated whole else whole

/-- The further stages of a pipeline. -/
def pipelineRest : Nat → List Command → Parse (List Command)
  | 0, _ => fault "out of memory"
  | n + 1, stages => do
    if (← token n) = .bar then
      check commandChecks
      let c ← command n
      pipelineRest n (stages ++ [c])
    else
      putBack
      return stages

/-- A list that is part of a command and stands before a token of a kind. -/
def body : Nat → Token → Parse Command
  | 0, _ => fault "out of memory"
  | n + 1, closing => do
    match ← list n false false none with
    | some c => return c
    | none => unexpected (some closing)

/-- Takes a token of a kind. -/
def expect : Nat → Token → Parse Unit
  | 0, _ => fault "out of memory"
  | n + 1, t => do
    if (← token n) != t then unexpected (some t)

/-- A command. -/
def command : Nat → Parse Command
  | 0 => fault "out of memory"
  | n + 1 => do
    let line := (← get).line
    match ← token n with
    | .ifWord =>
      let c ← conditional n
      expect n .fiWord
      redirected n line c
    | .whileWord => repeated n line false
    | .untilWord => repeated n line true
    | .forWord =>
      let t ← token n
      let c ← get
      let name := c.word.bareText
      if t != .word || c.wordIsQuoted || (c.word.plainText?.map isName) != some true then
        fault "Bad for loop variable"
      check commandChecks
      let words ←
        if (← token n) = .inWord then do
          let words ← listedWords n
          let last := (← get).last
          if last != .newline && last != .semicolon then unexpected
          pure words
        else do
          if (← get).last != .semicolon then putBack
          pure [allArguments]
      check commandChecks
      expect n .doWord
      let c ← body n .doneWord
      expect n .doneWord
      redirected n line (.each line name words c)
    | .caseWord =>
      expect n .word
      let subject := (← get).word
      check commandChecks
      expect n .inWord
      let branches ← choices n
      redirected n line (.choice line subject branches)
    | .openBracket =>
      let c ← body n .closeBracket
      expect n .closeBracket
      redirected n line (.subshell line c [])
    | .openBrace =>
      let c ← body n .closeBrace
      expect n .closeBrace
      redirected n line c
    | .word | .redirection =>
      putBack
      let line := (← get).line
      simple n line [] [] [] true
    | _ => unexpected

/-- The tests and branches of a conditional. -/
def conditional : Nat → Parse Command
  | 0 => fault "out of memory"
  | n + 1 => do
    let test ← body n .thenWord
    expect n .thenWord
    let first ← body n .fiWord
    match ← token n with
    | .elifWord =>
      let otherwise ← conditional n
      return .conditional test first (some otherwise)
    | .elseWord =>
      let otherwise ← body n .fiWord
      return .conditional test first (some otherwise)
    | _ =>
      putBack
      return .conditional test first none

/-- A loop with a test. -/
def repeated : Nat → Nat → Bool → Parse Command
  | 0, _, _ => fault "out of memory"
  | n + 1, line, stopsOn => do
    let test ← body n .doWord
    expect n .doWord
    let c ← body n .doneWord
    expect n .doneWord
    redirected n line (.loop stopsOn test c)

/-- Words up to another token. -/
def listedWords : Nat → Parse (List Word)
  | 0 => fault "out of memory"
  | n + 1 => do
    if (← token n) = .word then
      let w := (← get).word
      return w :: (← listedWords n)
    else return []

/-- The branches of a choice. -/
def choices : Nat → Parse (List (List Word × Option Command))
  | 0 => fault "out of memory"
  | n + 1 => do
    check { newlines := true, keywords := true }
    let t ← token n
    if t = .esacWord then return []
    if t = .openBracket then let _ ← token n
    let globs ← alternatives n
    if (← get).last != .closeBracket then unexpected (some .closeBracket)
    let c ← list n false true none
    check { newlines := true, keywords := true }
    match ← token n with
    | .esacWord => return [(globs, c)]
    | .endOfCase => return (globs, c) :: (← choices n)
    | _ => unexpected (some .endOfCase)

/-- The globs of a branch, the first of which has been read. -/
def alternatives : Nat → Parse (List Word)
  | 0 => fault "out of memory"
  | n + 1 => do
    let w := (← get).word
    if (← token n) = .bar then
      let _ ← token n
      return w :: (← alternatives n)
    else return [w]

/-- The redirections after a compound command. -/
def redirected : Nat → Nat → Command → Parse Command
  | 0, _, _ => fault "out of memory"
  | n + 1, line, c => do
    check { keywords := true, aliases := true }
    let rs ← redirections n
    return withRedirections line c rs

/-- Redirections one after another. -/
def redirections : Nat → Parse (List Redirection)
  | 0 => fault "out of memory"
  | n + 1 => do
    if (← token n) = .redirection then
      let r ← target n
      return r :: (← redirections n)
    else
      putBack
      return []

/-- The target of the redirection whose sign has been read. -/
def target : Nat → Parse Redirection
  | 0 => fault "out of memory"
  | n + 1 => do
    let (stream, opened) := (← get).opened
    match opened with
    | .here strips =>
      check { isMark := true }
      if (← token n) != .word then unexpected
      modifyGet fun c =>
        let document := c.documents.size
        (.here stream document, { c with
          documents := c.documents.push []
          awaited := c.awaited ++
            [{ document, mark := c.word.bareText, strips, isQuoted := c.wordIsQuoted }] })
    | .duplicate =>
      if (← token n) != .word then unexpected
      return .duplicate stream (← get).word
    | .file mode =>
      if (← token n) != .word then unexpected
      return .file stream mode (← get).word

/-- The rest of a simple command in a line. -/
def simple : Nat → Nat → List Word → List Word → List Redirection → Bool → Parse Command
  | 0, _, _, _, _, _ => fault "out of memory"
  | n + 1, line, assignments, words, rs, isStart => do
    check { aliases := isStart }
    match ← token n with
    | .word =>
      let w := (← get).word
      if isStart && w.assignment?.isSome then simple n line (assignments ++ [w]) words rs true
      else simple n line assignments (words ++ [w]) rs false
    | .redirection =>
      let r ← target n
      simple n line assignments words (rs ++ [r]) isStart
    | t =>
      match t, words with
      | .openBracket, [w] =>
        if assignments.isEmpty && rs.isEmpty then
          expect n .closeBracket
          match w.plainText? with
          | some name =>
            if !isName name || specialNames.contains (String.ofList name) then
              fault "Bad function name"
            check commandChecks
            let line := (← get).line
            return .function line name (← command n)
          | none => fault "Bad function name"
        else
          putBack
          return .simple line assignments words rs
      | _, _ =>
        putBack
        return .simple line assignments words rs

end

/-- The word that a text between quotes would be. -/
def readText (text : Chars) : Except Fault Word :=
  let mark : Awaited := { document := 0, mark := ['\x00'], strips := false, isQuoted := false }
  let frame : Frame := { quoting := .double, isQuoted := true }
  match stretch (20 * text.length + 100) (some mark) .wordEnd frame {} { rest := text } with
  | .error e => .error e
  | .ok ((b, _), _) => .ok b.word

/-- What is left of a script, and what holds for all of it. -/
structure Source where
  rest : Chars
  line : Nat := 1
  deriving Inhabited

/-- Reads the commands of a line: nothing at the end of the script.  The last part says whether
the end has been reached. -/
def readLine (aliases : List (Chars × Chars)) (s : Source) :
    Except Fault (Option Line × Source × Bool) :=
  let fuel := 20 * s.rest.length + 100
  match list fuel true false none { rest := s.rest, line := s.line, aliases } with
  | .error e => .error e
  | .ok (command, c) =>
    let isEnd := c.isPutBack && c.last = .endOfFile
    if isEnd && command.isNone then .ok (none, ⟨c.rest, c.line⟩, true)
    else .ok (some ⟨command, c.documents⟩, ⟨c.rest, c.line⟩, isEnd)

end LintRun.Shell
