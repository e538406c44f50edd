/-!
References to resources, as namespace names have to be: a scheme and a colon followed by a
location and path, or a path alone, then optionally a query and a fragment. Only the form is of
interest here.
-/

set_option autoImplicit false
set_option relaxedAutoImplicit false

namespace ContentTree.Xml.Uri

/-- Letters of ASCII. -/
def isAlpha (c : Char) : Bool := ('a' ≤ c && c ≤ 'z') || ('A' ≤ c && c ≤ 'Z')

/-- Digits of ASCII. -/
def isDigit (c : Char) : Bool := '0' ≤ c && c ≤ '9'

/-- Hexadecimal digits. -/
def isHex (c : Char) : Bool := isDigit c || ('a' ≤ c && c ≤ 'f') || ('A' ≤ c && c ≤ 'F')

/-- Characters that stand for themselves everywhere, and the delimiters inside a part. -/
def isPlain (c : Char) : Bool := isAlpha c || isDigit c || "-._~!$&'()*+,;=".toList.contains c

/-- Whether every character is plain, one of `extra`, or part of an escape. -/
def allOf (extra : List Char) : List Char → Bool
  | [] => true
  | '%' :: a :: b :: rest => isHex a && isHex b && allOf extra rest
  | c :: rest => (isPlain c || extra.contains c) && allOf extra rest

/-- Splits at the first occurrence of a character. -/
def splitAt? (mark : Char) (text : List Char) : List Char × Option (List Char) :=
  let front := text.takeWhile (· != mark)
  (front, (text.drop front.length).tail?)

/-- A host with an optional port. -/
def isHost (text : List Char) : Bool :=
  match text with
  | '[' :: rest =>
    match splitAt? ']' rest with
    | (_, some []) => true
    | (_, some (':' :: port)) => port != [] && port.all isDigit
    | _ => false
  | _ =>
    match splitAt? ':' text with
    | (host, none) => allOf [] host
    | (host, some port) => allOf [] host && port != [] && port.all isDigit

/-- A location: a host after an optional user. -/
def isAuthority (text : List Char) : Bool :=
  match splitAt? '@' text with
  | (_, none) => isHost text
  | (user, some host) => allOf [':'] user && isHost host

/-- A path, with a location in front when it begins with two slashes. -/
def isLocated : List Char → Bool
  | '/' :: '/' :: rest =>
    let authority := rest.takeWhile (· != '/')
    isAuthority authority && allOf ['/', ':', '@'] (rest.drop authority.length)
  | path => allOf ['/', ':', '@'] path

/-- Whether the text before the colon is a scheme. -/
def isScheme : List Char → Bool
  | [] => false
  | c :: rest => isAlpha c && rest.all fun d => isAlpha d || isDigit d || "+-.".toList.contains d

/-- Whether a text has the form of a reference. -/
def isReference (uri : String) : Bool :=
  let (body, fragment?) := splitAt? '#' uri.toList
  let (path, query?) := splitAt? '?' body
  let tailOk := (query?.getD []) |> allOf ['/', '?', ':', '@']
  let fragmentOk := (fragment?.getD []) |> allOf ['/', '?', ':', '@', '[', ']']
  let (front, rest?) := splitAt? ':' path
  let absolute := match rest? with
    | some rest => isScheme front && isLocated rest
    | none => false
  let relative := isLocated path && !(path.takeWhile (· != '/')).contains ':'
  tailOk && fragmentOk && (absolute || relative)

end ContentTree.Xml.Uri
