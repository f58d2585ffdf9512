import EventDigest.Mail.Word

/-! # Mail addresses

Reading the addresses of a mail header. The reader accepts obsolete spellings, comments and groups.
What it cannot read as an address it skips up to the next comma. A few malformed addresses cannot be
skipped: they are faults of the whole header.
-/
set_option autoImplicit false
namespace EventDigest.Mail

/-- An old local part without the blanks at its ends and around its dots; `atDot` says whether a dot
or the beginning comes before. -/
def localPieces (atDot : Bool) : List Piece → List Char
  | [] => []
  | .blank :: rest => localPieces atDot rest
  | .dot :: rest => '.' :: localPieces true rest
  | .stray c :: rest => c :: localPieces false rest
  | .word w :: rest =>
    let meetsDot := (rest.find? (!·.isBlank)).all Piece.isDot
    blankText (w.blankBefore && !atDot) ++ w.text ++ blankText (w.blankBehind && !meetsDot) ++
      localPieces false rest

def readDotAtomText : Nat → List Char → Except Stop (List Char × List Char)
  | 0, _ => .error .mismatch
  | fuel + 1, s =>
    match readAtomText s with
    | ([], _) => .error .mismatch
    | (text, '.' :: rest) => do
      let (more, rest) ← readDotAtomText fuel rest
      return (text ++ '.' :: more, rest)
    | (text, rest) => .ok (text, rest)

def readDotAtom (s : List Char) : Except Stop (List Char × List Char) := do
  let (text, rest) ← readDotAtomText s.length s
  return (text, (readBlanks rest).2)

/-- A local part is a text, or a quote that opens at the very end. -/
def readLocal (s : List Char) : Except Stop (Except AddressFault (List Char) × List Char) := do
  if s.isEmpty then throw (.fault .endsEarly)
  let (_, unblanked) := readBlanks s
  if unblanked.isEmpty then throw .mismatch
  let (text, rest) ← match readDotAtom unblanked with
    | .ok (text, rest) => pure (Except.ok text, rest)
    | .error _ =>
      match readWord unblanked with
      | .ok (word, rest) =>
        pure (if unblanked = ['"'] then .error .lacksContent else .ok word.text, rest)
      | .error _ =>
        match unblanked with
        | c :: _ => if c ≠ '\\' && endsPhrase c then throw .mismatch else pure (.ok [], unblanked)
        | [] => throw .mismatch
  match rest with
  | c :: _ =>
    if c = '\\' || !endsPhrase c then
      let (pieces, rest) := readPieces true s.length s
      return (.ok (localPieces true pieces), rest)
    else return (text, rest)
  | [] => return (text, rest)

def readAtom (s : List Char) : Except Stop (List Char × List Char) :=
  match readAtomText (readBlanks s).2 with
  | ([], _) => .error .mismatch
  | (text, rest) => .ok (text, (readBlanks rest).2)

def readLabels : Nat → List Char → Except Stop (List Char × List Char)
  | fuel + 1, '.' :: rest => do
    let (text, rest) ← readAtom rest
    let (more, rest) ← readLabels fuel rest
    return ('.' :: text ++ more, rest)
  | _, s => .ok ([], s)

/-- A domain in brackets; one that is never closed spoils the address. -/
def readLiteral (s : List Char) : Except Stop (Except AddressFault (List Char) × List Char) := do
  if s.isEmpty then return (.error .openLiteral, [])
  let inner := if s.head?.any isSpaceTab then s.dropWhile Text.isBlank else s
  if inner.isEmpty then throw (.fault .blankLiteral)
  let (text, rest) := readPlain ['[', ']'] false inner
  let rest := if rest.head?.any isSpaceTab then rest.dropWhile Text.isBlank else rest
  match rest with
  | [] => return (.error .openLiteral, [])
  | ']' :: rest => return (.ok ('[' :: text ++ [']']), (readBlanks rest).2)
  | _ => throw .mismatch

def withoutBlanks (s : List Char) : List Char := s.filter (!Text.isBlank ·)

def readDomain (s : List Char) : Except Stop (Except AddressFault (List Char) × List Char) := do
  if s.isEmpty then throw (.fault .endsEarly)
  match (readBlanks s).2 with
  | [] => throw .mismatch
  | '[' :: rest => do
    let (text, rest) ← readLiteral rest
    return (text.map withoutBlanks, rest)
  | s =>
    let (text, rest) ← match readDotAtom s with
      | .ok found => pure found
      | .error _ => readAtom s
    if rest.head? = some '@' then throw .mismatch
    let (more, rest) ← readLabels rest.length rest
    return (.ok (withoutBlanks (text ++ more)), rest)

/-- A mailbox as it was read; its parts may turn out to be unusable when they are written. -/
structure Mailbox where
  name : Option (List Piece)
  localPart : Except AddressFault (List Char)
  domain : Except AddressFault (List Char)

def readAddrSpec (name : Option (List Piece)) (s : List Char) :
    Except Stop (Mailbox × List Char) := do
  let (localPart, rest) ← readLocal s
  match rest with
  | '@' :: rest =>
    let (domain, rest) ← readDomain rest
    return (⟨name, localPart, domain⟩, rest)
  | rest => return (⟨name, localPart, .ok []⟩, rest)

/-- Blanks and commas before a route. -/
def skipCommas : Nat → List Char → List Char
  | 0, s => s
  | _, [] => []
  | fuel + 1, c :: rest =>
    if c = ',' then skipCommas fuel rest
    else if isSpaceTab c || c = '(' then skipCommas fuel (readBlanks (c :: rest)).2
    else c :: rest

def readRouteDomains : Nat → List Char → Except Stop (List Char)
  | fuel + 1, ',' :: rest => do
    if rest.isEmpty then return []
    match (readBlanks rest).2 with
    | [] => throw (.fault .endsEarly)
    | '@' :: rest =>
      let (_, rest) ← readDomain rest
      readRouteDomains fuel rest
    | rest => readRouteDomains fuel rest
  | _, s => .ok s

/-- The text behind an old route. -/
def skipRoute (s : List Char) : Except Stop (List Char) := do
  match skipCommas s.length s with
  | '@' :: rest =>
    let (_, rest) ← readDomain rest
    match ← readRouteDomains rest.length rest with
    | ':' :: rest => return rest
    | _ => throw .mismatch
  | _ => throw .mismatch

/-- An address in angle brackets, which may be missing or not closed. -/
def readAngle (name : Option (List Piece)) (s : List Char) : Except Stop (Mailbox × List Char) := do
  match (readBlanks s).2 with
  | '<' :: [] => throw (.fault .endsEarly)
  | '<' :: '>' :: rest => return (⟨name, .ok [], .ok []⟩, rest)
  | '<' :: rest =>
    let (mailbox, rest) ← match readAddrSpec name rest with
      | .error .mismatch => do readAddrSpec name (← skipRoute rest)
      | other => other
    let rest := match rest with
      | '>' :: rest => rest
      | rest => rest
    return (mailbox, (readBlanks rest).2)
  | _ => throw .mismatch

def blankFirst : List Piece → Except Stop (List Piece)
  | .word w :: rest => .ok (.word { w with blankBefore := true } :: rest)
  | _ => .error (.fault .dotBehindBlank)

def readNamed (s : List Char) : Except Stop (Mailbox × List Char) := do
  let (blank, s) := readBlanks s
  match s with
  | [] => throw .mismatch
  | '<' :: _ => readAngle none s
  | c :: _ =>
    if endsPhrase c then throw .mismatch
    let (pieces, rest) := readPhrase s
    if rest.isEmpty then throw .mismatch
    let pieces ← if blank then blankFirst pieces else pure pieces
    readAngle (some pieces) rest

def readMailbox (s : List Char) : Except Stop (Mailbox × List Char) := do
  let (mailbox, rest) ← match readNamed s with
    | .error .mismatch => readAddrSpec none s
    | other => other
  match mailbox.domain with
  | .error fault => throw (.fault fault)
  | .ok _ => return (mailbox, rest)

/-- The text from one of the given characters on, of those outside quotes and comments. -/
def skipInvalid (ends : List Char) : Nat → List Char → List Char
  | 0, s => s
  | _, [] => []
  | fuel + 1, c :: rest =>
    if ends.contains c then c :: rest
    else if endsPhrase c then skipInvalid ends fuel rest
    else skipInvalid ends fuel (readPhrase (c :: rest)).2

/-- What stands in a place of a list when no address can be read there: nothing, or something that
is no address. -/
def readOther (ends s : List Char) : List (Option Mailbox) × List Char :=
  let (blank, behind) := readBlanks s
  let s := if blank then behind else s
  match s with
  | [] => ([], [])
  | c :: _ =>
    if c = ',' || (blank && ends.contains c) then ([], s)
    else ([none], skipInvalid ends s.length s)

def skipComma : List Char → List Char
  | ',' :: rest => rest
  | s => s

/-- The mailboxes of a group up to a semicolon. Every round reads a character. -/
def readMembers : Nat → List Char → Except Stop (List (Option Mailbox) × List Char)
  | 0, s => .ok ([], s)
  | _, [] => .ok ([], [])
  | fuel + 1, c :: rest =>
    if c = ';' then .ok ([], c :: rest)
    else do
      let s := c :: rest
      let (found, rest) ← match readMailbox s with
        | .ok (mailbox, rest) => pure ([some mailbox], rest)
        | .error .mismatch => pure (readOther [',', ';'] s)
        | .error stop => throw stop
      let rest := skipComma (skipInvalid [',', ';'] rest.length rest)
      let (more, rest) ← readMembers fuel rest
      return (found ++ more, rest)

inductive AddressEntry
  | mailbox (mailbox : Mailbox)
  | invalid
  | group (name : List Piece) (members : List (Option Mailbox))
  | spoiledGroup (name : List Piece)

def readGroup (s : List Char) : Except Stop (AddressEntry × List Char) := do
  match readPhrase s with
  | (name, ':' :: ';' :: rest) => return (.group name [], rest)
  | (name, ':' :: rest) =>
    let (members, rest) ← match (readBlanks rest).2 with
      | [] => pure ([], [])
      | s => readMembers (s.length + 1) s
    return (.group name members, (readBlanks (rest.drop 1)).2)
  | _ => throw .mismatch

def readEntry (s : List Char) : Except Stop (AddressEntry × List Char) := do
  match readGroup s with
  | .error .mismatch =>
    let (mailbox, rest) ← readMailbox s
    return (.mailbox mailbox, rest)
  | other => other

/-- An entry that something follows; only a group suffers from it. -/
def AddressEntry.spoiled : AddressEntry → AddressEntry
  | .group name _ => .spoiledGroup name
  | entry => entry

/-- The entries of a list. Every round reads a character. -/
def readEntries : Nat → List Char → Except AddressFault (List AddressEntry)
  | 0, _ => .ok []
  | _, [] => .ok []
  | fuel + 1, s =>
    match readEntry s with
    | .error (.fault fault) => .error fault
    | .error .mismatch =>
      let (found, rest) := readOther [','] s
      (readEntries fuel (skipComma rest)).map (found.map (fun _ => .invalid) ++ ·)
    | .ok (entry, rest) =>
      let entry := if rest.isEmpty || rest.head? = some ',' then entry else entry.spoiled
      (readEntries fuel (skipComma (skipInvalid [','] rest.length rest))).map (entry :: ·)

end EventDigest.Mail
