import TierCascade.Console.Host
/-!
# Addresses

The address of an agent: a scheme, a host and a folder below which its pages lie. An address is
taken as people write it, with letters of any case and with needless or missing strokes, and brought
into one form: `Address.ofText?` does this, `Address.page?` names a page in its folder.
-/

namespace TierCascade.Console

/-- What the scheme of an address says about the rest of it. Addresses of the web have a host, those
of files may have one, and what stands in others is not known. -/
inductive SchemeKind where
  | web (usualPort : Nat)
  | file
  | other
  deriving Repr, DecidableEq

def SchemeKind.ofName : String → SchemeKind
  | "http" | "ws" => .web 80
  | "https" | "wss" => .web 443
  | "ftp" => .web 21
  | "file" => .file
  | _ => .other

/-- An address. One that names no place among others has no folder. -/
structure Address where
  scheme : String
  host : String
  port : Option Nat
  folder : Option (List String)
  deriving Repr, DecidableEq

/-- An address as it is read: without control characters and blanks around it, and without line ends
and tabs anywhere. -/
def cleaned (text : String) : List Char :=
  let trimmed := ((text.toList.dropWhile (·.toNat ≤ 0x20)).reverse.dropWhile (·.toNat ≤ 0x20)).reverse
  trimmed.filter fun c => c != '\t' && c != '\n' && c != '\r'

def schemeOf? (cs : List Char) : Option (String × List Char) :=
  let isRest (c : Char) : Bool := c.isAlphanum || c == '+' || c == '-' || c == '.'
  let name := cs.takeWhile isRest
  match name.head?, cs.dropWhile isRest with
  | some c, ':' :: rest => if c.isAlpha then some (String.ofList (name.map Char.toLower), rest) else none
  | _, _ => none

def endsPath (c : Char) : Bool := c == '?' || c == '#'

def endsAuthority (c : Char) : Bool := c == '/' || endsPath c

/-! ### Authorities -/

/-- Whether an authority says who asks, and what stands behind that. Who asks does not matter, but a
place where nobody is named needs a host behind it. -/
def behindUser? (cs : List Char) : Option (Bool × List Char) :=
  let users := (splitAtEach '@' (cs.takeWhile (!endsAuthority ·))).dropLast
  let user := List.intercalate ['@'] users
  if users.isEmpty then some (false, cs)
  else
    let behind := cs.drop (user.length + 1)
    if user.isEmpty ∧ behind.head?.any endsAuthority then none
    else some (!user.isEmpty && user != [':'], behind)

/-- The host at the start of a text and what stands behind it. A colon in brackets belongs to the
host. -/
def splitAtHostEnd (inBrackets : Bool) : List Char → List Char × List Char
  | [] => ([], [])
  | c :: rest =>
    if endsAuthority c || (c == ':' && !inBrackets) then ([], c :: rest)
    else
      let (host, behind) := splitAtHostEnd (c == '[' || (inBrackets && c != ']')) rest
      (c :: host, behind)

def port? : List Char → Option (Option Nat × List Char)
  | ':' :: cs =>
    let digits := cs.takeWhile Char.isDigit
    let behind := cs.drop digits.length
    let port := Nat.ofDigitChars 10 digits 0
    if port < 65536 ∧ behind.head?.all (fun c => endsAuthority c || c == '\\') then
      some (if digits.isEmpty then none else some port, behind)
    else none
  | cs => some (none, cs)

/-- The host and the port of an authority, and what stands behind it. An authority without a host
names nobody and no port, and none is without a host on the web. -/
def authority? (onWeb : Bool) (cs : List Char) : Option (List Char × Option Nat × List Char) := do
  let (isUserNamed, cs) ← behindUser? cs
  let (written, behind) := splitAtHostEnd false cs
  let host ← hostText? onWeb written
  if host.isEmpty ∧ (onWeb ∨ isUserNamed ∨ behind.head? = some ':') then none
  let (port, path) ← port? behind
  return (host, port, path)

/-! ### Paths -/

def pathChar (c : Char) : List Char :=
  if c.toNat ≤ 0x20 ∨ 0x7F ≤ c.toNat ∨ "\"#<>`?\x7b\x7d".toList.contains c then percentChars c else [c]

def isDrive : List Char → Bool
  | [letter, sign] => letter.isAlpha && (sign == ':' || sign == '|')
  | _ => false

/-- Whether a segment of a path starts with the letter of a drive. No way leads up from a drive. -/
def isOnDrive (segment : String) : Bool :=
  isDrive (segment.toList.take 2) && (segment.toList.drop 2).head?.all (· == '\\')

/-- Follows the segments of a path from its start; the segments walked are kept last first. A
segment at the end that only says how to walk leaves the path at a folder. -/
def walk (walked : List String) : List (List Char) → List String
  | [] => walked
  | segment :: rest =>
    let text := (String.ofList segment).toLower
    let up := [".", "%2e"].flatMap fun a => [".", "%2e"].map (a ++ ·)
    if up.contains text then
      let above := if walked.head?.any isOnDrive then walked else walked.tail
      if rest.isEmpty then "" :: above else walk above rest
    else if text = "." ∨ text = "%2e" then
      if rest.isEmpty then "" :: walked else walk walked rest
    else walk (String.ofList (segment.flatMap pathChar) :: walked) rest

def pathSegments (cs : List Char) : List String :=
  let path := cs.takeWhile (!endsPath ·)
  (walk [] (splitAtEach '/' (if path.head? = some '/' then path.tail else path))).reverse

/-- The folder that a path leads to: all of its segments but the last. -/
def folderOf (cs : List Char) : List String := (pathSegments cs).dropLast

/-! ### Files -/

/-- The host and the path of a file. A host may be missing, and is not named if it is the one that
asks. -/
def filePlace? : List Char → Option (List Char × List Char)
  | '/' :: '/' :: cs => do
    let written := cs.takeWhile (!endsAuthority ·)
    let path := cs.drop written.length
    if isDrive written then return ([], cs)
    if written.isEmpty then return ([], path)
    let host ← hostText? true written
    return (if host = "localhost".toList then [] else host, path)
  | cs => some ([], cs)

def fileFolder (path : List Char) : List String × Bool :=
  match (pathSegments path).dropWhile String.isEmpty with
  | [] => ([], false)
  | first :: rest =>
    if isDrive first.toList then
      (String.ofList (first.toList.take 1 ++ [':']) :: rest.dropLast, true)
    else ((first :: rest).dropLast, false)

namespace Address

/-- Reads an address. Strokes lean either way where the scheme is known. -/
def ofText? (text : String) : Option Address := do
  let (scheme, rest) ← schemeOf? (cleaned text)
  let upright := rest.map fun c => if c = '\\' then '/' else c
  match SchemeKind.ofName scheme with
  | .web _ =>
    let (host, port, path) ← authority? true (upright.dropWhile (· == '/'))
    return ⟨scheme, String.ofList host, port, some (folderOf path)⟩
  | .file =>
    let (host, path) ← filePlace? upright
    let (folder, onDrive) := fileFolder path
    return ⟨scheme, if onDrive then "" else String.ofList host, none, some folder⟩
  | .other =>
    match rest with
    | '/' :: '/' :: cs =>
      let (host, port, path) ← authority? false cs
      return ⟨scheme, String.ofList host, port, some (folderOf path)⟩
    | '/' :: _ => return ⟨scheme, "", none, some (folderOf rest)⟩
    | _ => return ⟨scheme, "", none, none⟩

def page? (a : Address) (page : String) : Option String :=
  a.folder.map fun folder => "/" ++ "/".intercalate (folder ++ [page])

def usualPort (a : Address) : Nat :=
  match SchemeKind.ofName a.scheme with
  | .web port => port
  | .file | .other => 80

def place (a : Address) : String := a.host ++ ":" ++ toString (a.port.getD a.usualPort)

end Address

end TierCascade.Console
