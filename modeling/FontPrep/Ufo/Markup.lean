import FontPrep.Text.Chars

namespace FontPrep.Markup

inductive Token where
  | opening (name : String) (attributes : List (String × String))
  | closing (name : String)
  | text (text : String)

/-! ### Entities -/

def hexNumber? (digits : List Char) : Option Nat :=
  if digits.isEmpty then none
  else digits.foldlM (fun number c => (Text.hexValue? c).map (number * 16 + ·)) 0

/-- What stands between an ampersand and a semicolon, as text. -/
def entity (name : List Char) : List Char :=
  match name with
  | ['l', 't'] => ['<']
  | ['g', 't'] => ['>']
  | ['a', 'm', 'p'] => ['&']
  | ['q', 'u', 'o', 't'] => ['"']
  | ['a', 'p', 'o', 's'] => ['\x27']
  | '#' :: 'x' :: digits => ((hexNumber? digits).map Char.ofNat).toList
  | '#' :: digits => ((String.ofList digits).toNat?.map Char.ofNat).toList
  | _ => []

/-- The text with its entities replaced; `pending` holds what follows an ampersand, in reverse. -/
def unescape (pending : Option (List Char)) : List Char → List Char
  | [] => []
  | c :: rest =>
    match pending, c with
    | none, '&' => unescape (some []) rest
    | none, c => c :: unescape none rest
    | some name, ';' => entity name.reverse ++ unescape none rest
    | some name, c => unescape (some (c :: name)) rest

def plainText (text : List Char) : String := String.ofList (unescape none text)

/-! ### Tags -/

/-- Attributes in the inside of a tag; each takes a character at least, so `fuel` is its length. -/
def attributes (fuel : Nat) (inside : List Char) : List (String × String) :=
  match fuel, inside.dropWhile (· != '=') with
  | fuel + 1, _ :: rest =>
    match rest.dropWhile Text.isBlank with
    | [] => []
    | quote :: value =>
      (String.ofList (Text.trim (inside.takeWhile (· != '='))),
        plainText (value.takeWhile (· != quote))) ::
          attributes fuel ((value.dropWhile (· != quote)).drop 1)
  | _, _ => []

/-- The tokens of a tag, given what stands between its angle brackets. An empty element is opened
and closed at once. -/
def tagTokens (inside : List Char) : List Token :=
  match inside with
  | '?' :: _ | '!' :: _ => []
  | '/' :: name => [.closing (String.ofList (Text.trim name))]
  | _ =>
    let isName (c : Char) : Bool := !Text.isBlank c && c != '/'
    let name := String.ofList (inside.takeWhile isName)
    let opening := Token.opening name (attributes inside.length (inside.dropWhile isName))
    if inside.getLast? == some '/' then [opening, .closing name] else [opening]

def textTokens (text : List Char) : List Token :=
  if text.isEmpty then [] else [.text (plainText text)]

inductive Mode where
  | text
  | tag
  | quoted (quote : Char)
  | comment

/-- Tokens of a text, after the given ones; both those and the characters read are in reverse. -/
def scan (done : List Token) (mode : Mode) (read : List Char) : List Char → Option (List Token)
  | [] =>
    match mode with
    | .text => some ((textTokens read.reverse).reverse ++ done).reverse
    | _ => none
  | '<' :: '!' :: '-' :: '-' :: rest =>
    match mode with
    | .text => scan ((textTokens read.reverse).reverse ++ done) .comment [] rest
    | mode => scan done mode read rest
  | '-' :: '-' :: '>' :: rest =>
    match mode with
    | .comment => scan done .text [] rest
    | .tag => scan ((tagTokens ('-' :: '-' :: read).reverse).reverse ++ done) .text [] rest
    | mode => scan done mode ('>' :: '-' :: '-' :: read) rest
  | c :: rest =>
    match mode, c with
    | .text, '<' => scan ((textTokens read.reverse).reverse ++ done) .tag [] rest
    | .tag, '>' => scan ((tagTokens read.reverse).reverse ++ done) .text [] rest
    | .tag, '"' => scan done (.quoted '"') ('"' :: read) rest
    | .tag, '\x27' => scan done (.quoted '\x27') ('\x27' :: read) rest
    | .quoted quote, c => scan done (if c == quote then .tag else .quoted quote) (c :: read) rest
    | .comment, _ => scan done .comment [] rest
    | mode, c => scan done mode (c :: read) rest

def tokens (text : String) : Option (List Token) := scan [] .text [] text.toList

end FontPrep.Markup
