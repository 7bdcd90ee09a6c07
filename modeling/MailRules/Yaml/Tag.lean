import MailRules.Yaml.QuotedScalar

/-!
# Tag — names for the type of a value

A tag is written in full between angle brackets, or as a handle and what follows it; a directive
gives a handle the text it stands for.

* `Tag.read?` reads a tag as it is written;
* `Tag.resolve?` puts in what the handle stands for;
* `Tag.directive?` reads the directive that says so.
-/

namespace MailRules
namespace Yaml

/-- A tag as it is written; a tag written in full has no handle. -/
structure Tag where
  handle : String
  suffix : String
  deriving DecidableEq, Repr

/-- A handle and what it stands for. -/
structure TagHandle where
  handle : String
  meaning : String
  deriving DecidableEq, Repr

namespace Tag

/-! ## Characters of an address -/

def isAddressChar (verbatim : Bool) (c : Char) : Bool :=
  isNameChar c ||
    [';', '/', '?', ':', '@', '&', '=', '+', '$', '.', '!', '~', '*', '\'', '(', ')'].contains c ||
    (verbatim && (c == ',' || c == '[' || c == ']'))

/-- An octet written as a percent sign and two hexadecimal digits. -/
def octet? : List Char → Option (Nat × List Char)
  | '%' :: a :: b :: rest =>
      match QuotedScalar.hexValue? a, QuotedScalar.hexValue? b with
      | some a, some b => some (a * 16 + b, rest)
      | _, _ => none
  | _ => none

/-- Further octets of a character, each of which adds six bits. -/
def moreOctets? (n : Nat) : Nat → List Char → Option (Nat × List Char)
  | 0, cs => some (n, cs)
  | count + 1, cs =>
      match octet? cs with
      | some (o, rest) => if o / 64 = 2 then moreOctets? (n * 64 + o % 64) count rest else none
      | none => none

/-- A character written octet by octet. -/
def escaped? (cs : List Char) : Option (Char × List Char) :=
  match octet? cs with
  | none => none
  | some (o, rest) =>
      let read (n count : Nat) := (moreOctets? n count rest).map fun (n, rest) => (Char.ofNat n, rest)
      if o < 0x80 then read o 0
      else if o / 32 = 6 then read (o % 32) 1
      else if o / 16 = 14 then read (o % 16) 2
      else if o / 8 = 30 then read (o % 8) 3
      else none

/-- The longest address.  Every turn takes at least one character. -/
def addressFrom? (verbatim : Bool) (text : List Char) :
    Nat → List Char → Option (List Char × List Char)
  | 0, cs => some (text.reverse, cs)
  | turns + 1, cs =>
      match cs with
      | [] => some (text.reverse, [])
      | c :: rest =>
          if c == '%' then
            match escaped? cs with
            | some (e, rest) => addressFrom? verbatim (e :: text) turns rest
            | none => none
          else if isAddressChar verbatim c then addressFrom? verbatim (c :: text) turns rest
          else some (text.reverse, cs)

def address? (verbatim : Bool) (cs : List Char) : Option (List Char × List Char) :=
  addressFrom? verbatim [] (cs.length + 1) cs

/-! ## Handles -/

/-- An exclamation mark, a name, and the exclamation mark that may follow. -/
def handle? : List Char → Option (List Char × List Char)
  | '!' :: cs =>
      let name := cs.takeWhile isNameChar
      match cs.dropWhile isNameChar with
      | '!' :: rest => some ('!' :: name ++ ['!'], rest)
      | rest => some ('!' :: name, rest)
  | _ => none

def isClosed (handle : List Char) : Bool := handle.length ≥ 2 && handle.getLast? == some '!'

/-! ## Tags -/

/-- A tag without a closed handle: the name after the exclamation mark belongs to the suffix, and
the mark alone is a tag of its own. -/
def local? (name cs : List Char) : Option (Tag × List Char) :=
  match address? false cs with
  | none => none
  | some (more, rest) =>
      let suffix := name ++ more
      if suffix.isEmpty then some (⟨"", "!"⟩, rest) else some (⟨"!", String.ofList suffix⟩, rest)

def text? (cs : List Char) : Option (Tag × List Char) :=
  match cs with
  | '!' :: '<' :: body =>
      match address? true body with
      | some (a, '>' :: rest) => if a.isEmpty then none else some (⟨"", String.ofList a⟩, rest)
      | _ => none
  | _ =>
      match handle? cs with
      | none => none
      | some (handle, rest) =>
          if isClosed handle then
            match address? false rest with
            | some (a, rest) =>
                if a.isEmpty then none else some (⟨String.ofList handle, String.ofList a⟩, rest)
            | none => none
          else local? (handle.drop 1) rest

/-- A tag ends with a word; inside brackets a comma may follow it at once. -/
def read? (flow : Bool) (c : Cursor) : Option (Tag × Cursor) :=
  match text? c.rest with
  | none => none
  | some (tag, rest) =>
      if endsWord rest || (flow && rest.head? = some ',') then
        some (tag, c.skip (c.rest.length - rest.length))
      else none

/-! ## Directives -/

def builtIn : List TagHandle := [⟨"!", "!"⟩, ⟨"!!", "tag:yaml.org,2002:"⟩]

/-- Handle and meaning of a directive, after its name. -/
def directive? (c : Cursor) : Option (TagHandle × Cursor) :=
  let c := c.skipWhile isBlank
  match handle? c.rest with
  | none => none
  | some (handle, rest) =>
      if !isClosed handle && handle != ['!'] then none
      else if !(rest.head?.map isBlank).getD false then none
      else
        match address? true (rest.dropWhile isBlank) with
        | none => none
        | some (meaning, rest) =>
            if meaning.isEmpty || !endsWord rest then none
            else
              some (⟨String.ofList handle, String.ofList meaning⟩, c.skip (c.rest.length - rest.length))

/-- The tag in full. -/
def resolve? (handles : List TagHandle) (t : Tag) : Option String :=
  if t.handle.isEmpty then some t.suffix
  else (handles.find? fun h => h.handle == t.handle).map fun h => h.meaning ++ t.suffix

end Tag
end Yaml
end MailRules
