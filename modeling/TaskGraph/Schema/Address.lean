import TaskGraph.Text.Lines
set_option autoImplicit false

/-! Addresses of schemas: their parts, and what an address means
that is given relative to another one. -/

namespace TaskGraph.Schema

/-- The parts of an address. A part that is not there is empty. -/
structure Address where
  scheme : List Char
  host : List Char
  path : List Char
  query : List Char
  fragment : List Char

namespace Address

def relativeSchemes : List String :=
  ["", "ftp", "http", "gopher", "nntp", "imap", "wais", "file", "https", "shttp", "mms", "prospero",
    "rtsp", "rtsps", "rtspu", "sftp", "svn", "svn+ssh", "ws", "wss"]

def hostSchemes : List String :=
  relativeSchemes ++ ["telnet", "snews", "rsync", "nfs", "git", "git+ssh"]

def inScheme (c : Char) : Bool := c.isAlphanum || c = '+' || c = '-' || c = '.'

def cut (mark : Char) (text : List Char) : List Char × List Char :=
  (text.takeWhile (· ≠ mark), (text.dropWhile (· ≠ mark)).drop 1)

def splitScheme (text : List Char) : List Char × List Char :=
  let word := text.takeWhile inScheme
  match word, text.dropWhile inScheme with
  | c :: _, ':' :: rest => if c.isAlpha then (word.map Char.toLower, rest) else ([], text)
  | _, _ => ([], text)

def splitHost : List Char → List Char × List Char
  | '/' :: '/' :: rest =>
      let inHost (c : Char) : Bool := c ≠ '/' && c ≠ '?' && c ≠ '#'
      (rest.takeWhile inHost, rest.dropWhile inHost)
  | rest => ([], rest)

/-- The parts of an address. Blanks in front do not count, nor do tabs and line ends. -/
def ofText (text : List Char) : Address :=
  let text := (text.dropWhile fun c => c.toNat ≤ 0x20).filter fun c =>
    c ≠ '\t' && c ≠ '\r' && c ≠ '\n'
  let (scheme, rest) := splitScheme text
  let (host, rest) := splitHost rest
  let (rest, fragment) := cut '#' rest
  let (path, query) := cut '?' rest
  ⟨scheme, host, path, query, fragment⟩

def isOneOf (schemes : List String) (scheme : List Char) : Bool :=
  schemes.contains (String.ofList scheme)

def text (address : Address) : List Char :=
  let { scheme, host, path, query, fragment } := address
  let named := !host.isEmpty ||
    (!scheme.isEmpty && isOneOf hostSchemes scheme && path.take 2 ≠ ['/', '/'])
  let path := if named then
      ['/', '/'] ++ host ++ (if path.isEmpty || path.head? = some '/' then path else '/' :: path)
    else path
  (if scheme.isEmpty then [] else scheme ++ [':']) ++ path ++ (if query.isEmpty then
    [] else '?' :: query) ++ (if fragment.isEmpty then [] else '#' :: fragment)

/-- The segments of a path in which points have their meaning: one point stays, two go back. -/
def resolvePoints (segments : List (List Char)) : List (List Char) :=
  let kept := segments.foldl (fun kept segment =>
    if segment = ['.', '.'] then kept.dropLast else if segment = ['.'] then kept
      else kept ++ [segment]) []
  if segments.getLast? = some ['.'] || segments.getLast? = some ['.', '.'] then
    kept ++ [[]] else kept

def joinPaths (base path : List Char) : List Char :=
  let segments := Text.splitAt '/' path
  let parts := Text.splitAt '/' base
  let directory := if parts.getLast? = some [] then parts else parts.dropLast
  let all :=
    if path.head? = some '/' then segments
    else
      let all := directory ++ segments
      all.take 1 ++ ((all.drop 1).dropLast).filter (!·.isEmpty) ++ (all.drop 1).getLast?.toList
  match Text.joinWith ['/'] (resolvePoints all) with
  | [] => ['/']
  | joined => joined

end Address

def joinAddress (base relative : List Char) : List Char :=
  if base.isEmpty then relative
  else if relative.isEmpty then base
  else
    let outer := Address.ofText base
    let target := Address.ofText relative
    let target := { target with scheme := if target.scheme.isEmpty then outer.scheme
      else target.scheme }
    if target.scheme ≠ outer.scheme || !Address.isOneOf Address.relativeSchemes target.scheme
      then relative
    else if !target.host.isEmpty then target.text
    else if target.path.isEmpty then
      let query := if target.query.isEmpty then outer.query else target.query
      { target with host := outer.host, path := outer.path, query }.text
    else { target with host := outer.host, path := Address.joinPaths outer.path target.path }.text

def splitFragment (address : List Char) : List Char × List Char :=
  if address.contains '#' then
    let parts := Address.ofText address
    ({ parts with fragment := [] }.text, parts.fragment)
  else (address, [])

end TaskGraph.Schema
