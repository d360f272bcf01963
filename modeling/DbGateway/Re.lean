import DbGateway.Python

/-!
# DbGateway.Re

Python's `re` on the constructs the gateway's patterns use: backtracking in
priority order, lazy and greedy repetition, groups, word boundaries and `$`.
-/

namespace DbGateway.Re

/-- A pattern.  A character is a predicate, so flags such as `IGNORECASE` are
settled when the pattern is built. -/
inductive Pattern where
  | empty
  | char (p : Char → Bool)
  | seq (r s : Pattern)
  | alt (r s : Pattern)
  | star (greedy : Bool) (r : Pattern)
  | group (n : Nat) (r : Pattern)
  /-- `\b` -/
  | boundary
  /-- `$` -/
  | end_

/-- The spans of the groups set so far, latest first. -/
abbrev Groups := List (Nat × Nat × Nat)

/-- Where a pattern matched. -/
structure Match where
  start : Nat
  stop : Nat
  groups : Groups

section

variable [Python]

/-- `\w` -/
def isWord (c : Char) : Bool := Python.isAlnum c || c == '_'

/-- What a match still has to do at a position. -/
abbrev Continuation := Nat → Groups → Option Match

/-- Repeat a body; every round has to consume something. -/
def repeat_ (body : Nat → Groups → Continuation → Option Match) (greedy : Bool) :
    Nat → Nat → Groups → Continuation → Option Match
  | 0, pos, groups, k => k pos groups
  | fuel + 1, pos, groups, k =>
      let more := fun (_ : Unit) => body pos groups fun pos' groups' =>
        if pos < pos' then repeat_ body greedy fuel pos' groups' k else none
      if greedy then (more ()).orElse fun _ => k pos groups
      else (k pos groups).orElse more

/-- The first way to match at a position and go on. -/
def matchFrom (text : List Char) : Pattern → Nat → Groups → Continuation → Option Match
  | .empty, pos, groups, k => k pos groups
  | .char p, pos, groups, k => if text[pos]?.any p then k (pos + 1) groups else none
  | .seq r s, pos, groups, k =>
      matchFrom text r pos groups fun pos' groups' => matchFrom text s pos' groups' k
  | .alt r s, pos, groups, k =>
      (matchFrom text r pos groups k).orElse fun _ => matchFrom text s pos groups k
  | .star greedy r, pos, groups, k =>
      repeat_ (matchFrom text r) greedy (text.length + 1) pos groups k
  | .group n r, pos, groups, k =>
      matchFrom text r pos groups fun pos' groups' => k pos' ((n, pos, pos') :: groups')
  | .boundary, pos, groups, k =>
      let before := pos != 0 && text[pos - 1]?.any isWord
      let after := text[pos]?.any isWord
      if before != after then k pos groups else none
  | .end_, pos, groups, k =>
      if pos = text.length || (pos + 1 = text.length && text[pos]? == some '\n') then k pos groups
      else none

/-- `re.match` at a position. -/
def matchAt (r : Pattern) (text : List Char) (pos : Nat) : Option Match :=
  matchFrom text r pos [] fun stop groups => some ⟨pos, stop, groups⟩

/-- `re.search` from a position on. -/
def searchFrom (r : Pattern) (text : List Char) (pos : Nat) : Option Match :=
  (List.range' pos (text.length + 1 - pos)).findSome? (matchAt r text)

/-- `re.search` -/
def search (r : Pattern) (text : List Char) : Option Match := searchFrom r text 0

/-- `re.finditer`, at most `fuel` matches. -/
def matchesFrom (r : Pattern) (text : List Char) : Nat → Nat → List Match
  | 0, _ => []
  | fuel + 1, pos =>
      match searchFrom r text pos with
      | none => []
      | some m => m :: matchesFrom r text fuel (if m.stop = m.start then m.stop + 1 else m.stop)

/-- `re.finditer` -/
def findIter (r : Pattern) (text : List Char) : List Match :=
  matchesFrom r text (text.length + 1) 0

end

/-- The text of a span. -/
def slice (text : List Char) (start stop : Nat) : List Char := (text.drop start).take (stop - start)

/-- `match.group(0)` -/
def Match.whole (m : Match) (text : List Char) : List Char := slice text m.start m.stop

/-- `match.group(n)` of a group that took part. -/
def Match.groupText (m : Match) (text : List Char) (n : Nat) : List Char :=
  match m.groups.lookup n with
  | some (start, stop) => slice text start stop
  | none => []

/-! ## Building blocks -/

namespace Pattern

/-- A letter under `IGNORECASE`; three ASCII letters have relatives outside
ASCII. -/
def foldsTo (letter c : Char) : Bool :=
  c.toLower == letter || (letter == 's' && c == 'ſ') || (letter == 'k' && c == '\u212a') ||
    (letter == 'i' && (c == 'İ' || c == 'ı'))

/-- A lower-case word under `IGNORECASE`. -/
def word (w : String) : Pattern :=
  w.toList.foldr (fun c r => .seq (.char (foldsTo c)) r) .empty

/-- A text as it stands. -/
def text (t : String) : Pattern := t.toList.foldr (fun c r => .seq (.char (· == c)) r) .empty

/-- `r+`, greedy. -/
def plus (r : Pattern) : Pattern := .seq r (.star true r)

/-- `\s+` -/
def spaces : Pattern := plus (.char isSpace)

/-- `\s*` -/
def optionalSpaces : Pattern := .star true (.char isSpace)

def seqs (rs : List Pattern) : Pattern := rs.foldr .seq .empty

def alts : List Pattern → Pattern
  | [] => .empty
  | [r] => r
  | r :: rs => .alt r (alts rs)

/-- `[a-zA-Z_]` -/
def isLetter (c : Char) : Bool := c.isAlpha || c == '_'

/-- `[a-zA-Z_]` under `IGNORECASE`. -/
def isLetterFolded (c : Char) : Bool :=
  isLetter c || c == 'ſ' || c == '\u212a' || c == 'İ' || c == 'ı'

end Pattern

end DbGateway.Re
