import Mathlib.Data.List.AList

/-! JSON texts of objects whose values are strings, written without white space: what such a
text denotes, a reader and a writer. -/
namespace Json

/-- The members of an object, in the order in which they are written. -/
abbrev Members := List (Σ _ : String, String)

def quote : Char := '\x22'

def hexDigit (c : Char) : Option Nat :=
  if '0' ≤ c ∧ c ≤ '9' then some (c.toNat - 48)
  else if 'a' ≤ c ∧ c ≤ 'f' then some (c.toNat - 87)
  else if 'A' ≤ c ∧ c ≤ 'F' then some (c.toNat - 55)
  else none

/-- The code unit of four hexadecimal digits. -/
def codeUnit (a b c d : Char) : Option Nat := do
  return (((← hexDigit a) * 16 + (← hexDigit b)) * 16 + (← hexDigit c)) * 16 + (← hexDigit d)

def shortEscape (c : Char) : Option Char :=
  [(quote, quote), ('\\', '\\'), ('/', '/'), ('b', '\x08'), ('f', '\x0c'), ('n', '\n'),
    ('r', '\r'), ('t', '\t')].lookup c

/-- The character of a surrogate pair. -/
def surrogates (high low : Nat) : Nat := 0x10000 + (high - 0xD800) * 0x400 + (low - 0xDC00)

/-- A text begins with a character of a string, and this is the rest of it. -/
inductive Spells : List Char → Char → List Char → Prop where
  | plain {c rest} : 0x20 ≤ c.toNat → c ≠ quote → c ≠ '\\' → Spells (c :: rest) c rest
  | short {e c rest} : shortEscape e = some c → Spells ('\\' :: e :: rest) c rest
  | unit {a b d e c rest} : codeUnit a b d e = some c.toNat →
      Spells ('\\' :: 'u' :: a :: b :: d :: e :: rest) c rest
  | pair {a b d e a' b' d' e' high low c rest} : codeUnit a b d e = some high →
      codeUnit a' b' d' e' = some low → 0xD800 ≤ high → high < 0xDC00 → 0xDC00 ≤ low → low < 0xE000 →
      c.toNat = surrogates high low →
      Spells ('\\' :: 'u' :: a :: b :: d :: e :: '\\' :: 'u' :: a' :: b' :: d' :: e' :: rest) c rest

/-- A text goes on with the rest of a string, from its opening quotation mark on. -/
inductive Chars : List Char → List Char → List Char → Prop where
  | close {rest} : Chars (quote :: rest) [] rest
  | next {text c middle cs rest} : Spells text c middle → Chars middle cs rest →
      Chars text (c :: cs) rest

/-- A text goes on with members and the end of an object. -/
inductive Listed : List Char → Members → Prop where
  | last {text k middle v} : Chars text k (':' :: quote :: middle) → Chars middle v ['\x7d'] →
      Listed (quote :: text) [⟨String.ofList k, String.ofList v⟩]
  | next {text k middle v rest members} : Chars text k (':' :: quote :: middle) →
      Chars middle v (',' :: rest) → Listed rest members →
      Listed (quote :: text) (⟨String.ofList k, String.ofList v⟩ :: members)

/-- A text is that of an object with these members. -/
inductive Denotes : List Char → Members → Prop where
  | empty : Denotes ['\x7b', '\x7d'] []
  | listed {text members} : Listed text members → Denotes ('\x7b' :: text) members

theorem Spells.shorter {text rest : List Char} {c : Char} (spelled : Spells text c rest) :
    rest.length < text.length := by
  cases spelled <;> simp only [List.length_cons] <;> omega

theorem Chars.shorter {text cs rest : List Char} (read : Chars text cs rest) :
    rest.length < text.length := by
  induction read with
  | close => simp
  | next spelled _ ih => exact Nat.lt_trans ih spelled.shorter

section Reader

def readUnit : List Char → Option (Nat × List Char)
  | a :: b :: d :: e :: rest => (codeUnit a b d e).map (·, rest)
  | _ => none

/-- A character that is given by one code unit or two, after its first `\u`. -/
def readScalar (text : List Char) : Option (Char × List Char) :=
  (readUnit text).bind fun high =>
    if 0xD800 ≤ high.1 ∧ high.1 < 0xDC00 then
      match high.2 with
      | '\\' :: 'u' :: rest => (readUnit rest).bind fun low =>
          if 0xDC00 ≤ low.1 ∧ low.1 < 0xE000 then
            some (Char.ofNat (surrogates high.1 low.1), low.2)
          else none
      | _ => none
    else if 0xDC00 ≤ high.1 ∧ high.1 < 0xE000 then none
    else some (Char.ofNat high.1, high.2)

/-- The first character of a string. -/
def readChar : List Char → Option (Char × List Char)
  | [] => none
  | c :: text =>
      if c = '\\' then
        match text with
        | [] => none
        | e :: rest => if e = 'u' then readScalar rest else (shortEscape e).map (·, rest)
      else if c.toNat < 0x20 then none
      else some (c, text)

/-- A string up to its closing quotation mark. -/
def readChars : Nat → List Char → Option (List Char × List Char)
  | 0, _ => none
  | fuel + 1, text =>
      if text.head? = some quote then some ([], text.tail)
      else (readChar text).bind fun first =>
        (readChars fuel first.2).map fun found => (first.1 :: found.1, found.2)

def readString (text : List Char) : Option (String × List Char) :=
  if text.head? = some quote then
    (readChars text.length text.tail).map fun found => (String.ofList found.1, found.2)
  else none

/-- Members up to the end of the object. -/
def readMembers : Nat → List Char → Option Members
  | 0, _ => none
  | fuel + 1, text =>
      (readString text).bind fun key =>
        match key.2 with
        | ':' :: text =>
            (readString text).bind fun value =>
              match value.2 with
              | ['\x7d'] => some [⟨key.1, value.1⟩]
              | ',' :: text => (readMembers fuel text).map (⟨key.1, value.1⟩ :: ·)
              | _ => none
        | _ => none

def readObject : List Char → Option Members
  | ['\x7b', '\x7d'] => some []
  | '\x7b' :: text => readMembers text.length text
  | _ => none

theorem not_surrogate (c : Char) : c.toNat < 0xD800 ∨ 0xE000 ≤ c.toNat := by
  have scalar : c.toNat < 0xD800 ∨ (0xDFFF < c.toNat ∧ c.toNat < 0x110000) := c.valid
  omega

theorem readChar_complete {text rest : List Char} {c : Char} (spelled : Spells text c rest) :
    readChar text = some (c, rest) := by
  cases spelled with
  | plain printable _ escape =>
      simp [readChar, escape, Nat.not_lt.mpr printable]
  | @short e c rest known =>
      have other : e ≠ 'u' := by
        rintro rfl
        cases known
      simp [readChar, other, known]
  | @unit a b d e c rest found =>
      have scalar := not_surrogate c
      have low : ¬ (0xD800 ≤ c.toNat ∧ c.toNat < 0xDC00) := by omega
      have high : ¬ (0xDC00 ≤ c.toNat ∧ c.toNat < 0xE000) := by omega
      simp [readChar, readScalar, readUnit, found, low, high]
  | @pair a b d e a' b' d' e' high low c rest found found' high_ge high_lt low_ge low_lt same =>
      simp [readChar, readScalar, readUnit, found, found', high_ge, high_lt, low_ge, low_lt, ← same]

/-- A character of a string does not begin with its closing quotation mark. -/
theorem Spells.not_closed {text rest : List Char} {c : Char} (spelled : Spells text c rest) :
    text.head? ≠ some quote := by
  cases spelled with
  | plain _ other _ => simpa using other
  | short | unit | pair => simp [quote]

theorem readChars_complete {text cs rest : List Char} (read : Chars text cs rest) :
    ∀ {fuel}, text.length ≤ fuel → readChars fuel text = some (cs, rest) := by
  induction read with
  | close =>
      intro fuel enough
      obtain ⟨fuel, rfl⟩ : ∃ n, fuel = n + 1 := ⟨fuel - 1, by simp at enough; omega⟩
      simp [readChars]
  | next spelled read ih =>
      intro fuel enough
      have shorter := spelled.shorter
      obtain ⟨fuel, rfl⟩ : ∃ n, fuel = n + 1 := ⟨fuel - 1, by omega⟩
      simp [readChars, spelled.not_closed, readChar_complete spelled, ih (show _ ≤ fuel by omega)]

theorem readString_complete {text cs rest : List Char} (read : Chars text cs rest) :
    readString (quote :: text) = some (String.ofList cs, rest) := by
  simp [readString, readChars_complete read (show _ ≤ text.length + 1 by omega)]

theorem readMembers_complete {text : List Char} {members : Members} (listed : Listed text members) :
    ∀ {fuel}, text.length ≤ fuel → readMembers fuel text = some members := by
  induction listed with
  | last key value =>
      intro fuel enough
      obtain ⟨fuel, rfl⟩ : ∃ n, fuel = n + 1 := ⟨fuel - 1, by simp at enough; omega⟩
      simp [readMembers, readString_complete key, readString_complete value]
  | next key value listed ih =>
      intro fuel enough
      have shorter := key.shorter
      have shorter' := value.shorter
      simp only [List.length_cons] at shorter shorter' enough
      obtain ⟨fuel, rfl⟩ : ∃ n, fuel = n + 1 := ⟨fuel - 1, by omega⟩
      simp [readMembers, readString_complete key, readString_complete value,
        ih (show _ ≤ fuel by omega)]

/-- What a text denotes is read from it. -/
theorem readObject_complete {text : List Char} {members : Members} (denotes : Denotes text members) :
    readObject text = some members := by
  cases denotes with
  | empty => rfl
  | @listed text members listed =>
      have complete := readMembers_complete listed (Nat.le_refl text.length)
      cases listed <;> exact complete

end Reader

section Writer

def hexChar (n : Nat) : Char :=
  if n < 10 then Char.ofNat (48 + n) else Char.ofNat (87 + n)

def escape (c : Char) : List Char :=
  if c = quote ∨ c = '\\' then ['\\', c]
  else if c.toNat < 0x20 then ['\\', 'u', '0', '0', hexChar (c.toNat / 16), hexChar (c.toNat % 16)]
  else [c]

def writeString (string : String) : List Char :=
  quote :: (string.toList.flatMap escape ++ [quote])

def writeMember (member : Σ _ : String, String) : List Char :=
  writeString member.1 ++ ':' :: writeString member.2

/-- The members and the end of the object. -/
def writeMembers : Members → List Char
  | [] => ['\x7d']
  | [member] => writeMember member ++ ['\x7d']
  | member :: members => writeMember member ++ ',' :: writeMembers members

def writeObject (members : Members) : List Char :=
  '\x7b' :: writeMembers members

theorem codeUnit_hexChar : ∀ n < 32,
    codeUnit '0' '0' (hexChar (n / 16)) (hexChar (n % 16)) = some n := by
  decide

theorem spells_escape (c : Char) (rest : List Char) : Spells (escape c ++ rest) c rest := by
  unfold escape
  split
  · rename_i special
    obtain rfl | rfl := special <;> exact .short rfl
  · rename_i plain
    obtain ⟨other, other'⟩ := not_or.mp plain
    split
    · exact .unit (codeUnit_hexChar _ ‹_›)
    · exact .plain (Nat.not_lt.mp ‹_›) other other'

theorem chars_written (cs rest : List Char) :
    Chars (cs.flatMap escape ++ quote :: rest) cs rest := by
  induction cs with
  | nil => exact .close
  | cons c cs ih =>
      rw [List.flatMap_cons, List.append_assoc]
      exact .next (spells_escape c _) ih

theorem member_written (key value : String) (rest : List Char) : ∃ text middle,
    writeMember ⟨key, value⟩ ++ rest = quote :: text ∧
      Chars text key.toList (':' :: quote :: middle) ∧ Chars middle value.toList rest := by
  refine ⟨_, _, ?_, chars_written _ _, chars_written _ _⟩
  simp [writeMember, writeString]

theorem listed_written {members : Members} (some_member : members ≠ []) :
    Listed (writeMembers members) members := by
  induction members with
  | nil => contradiction
  | cons member members ih =>
      obtain ⟨key, value⟩ := member
      cases members with
      | nil =>
          obtain ⟨text, middle, same, first, second⟩ := member_written key value ['\x7d']
          simpa only [writeMembers, same, String.ofList_toList] using Listed.last first second
      | cons other members =>
          obtain ⟨text, middle, same, first, second⟩ :=
            member_written key value (',' :: writeMembers (other :: members))
          simpa only [writeMembers, same, String.ofList_toList] using
            Listed.next first second (ih (List.cons_ne_nil _ _))

/-- What is written denotes what it was written for. -/
theorem writeObject_denotes (members : Members) : Denotes (writeObject members) members := by
  cases members with
  | nil => exact .empty
  | cons member members => exact .listed (listed_written (List.cons_ne_nil _ _))

end Writer

end Json
