import Mathlib.Data.List.Basic
import Mathlib.Tactic.IntervalCases
import Mathlib.Data.Nat.Digits
set_option autoImplicit false

/-!
# The fast-import command stream

`generate_header`, `write_blob_to_stream`, `copy_existing_blob_to_stream` and the importers'
`D <path>` lines write one byte stream for `git fast-import`. A reader with the grammar of the
importer protocol takes it apart again: names end at a line feed, data is length-prefixed.
Text goes into the stream as `str.encode("utf8")`, so in the stream a line feed is the byte 10,
and only a line feed of the text gives that byte.
-/
namespace Kart.FastImport

/-- `str.encode("utf8")`. -/
def utf8 (s : String) : List UInt8 := s.data.flatMap String.utf8EncodeChar

@[simp] theorem utf8_append (a b : String) : utf8 (a ++ b) = utf8 a ++ utf8 b := by
  simp [utf8]

section Bytes

theorem toNat_lor (x y : UInt8) : (x ||| y).toNat = x.toNat ||| y.toNat := BitVec.toNat_or _ _

/-- An ASCII byte is never a byte of a multi-byte sequence, whose top bit is set. -/
theorem ascii_eq_lor_iff (b x y : UInt8) (hb : b.toNat < 128) (hy : y.toNat.testBit 7 = true) :
    b = x ||| y ↔ False :=
  iff_false_intro fun h => by
    have h' := congrArg (fun z : UInt8 => z.toNat.testBit 7) h
    simp only [toNat_lor, Nat.testBit_or, hy, Bool.or_true] at h'
    exact Bool.false_ne_true ((Nat.testBit_lt_two_pow (show b.toNat < 2 ^ 7 from hb)).symm.trans h')

theorem toNat_toUInt8 (v : UInt32) (hv : v ≤ 0x7f) : v.toUInt8.toNat = v.toNat := by
  have : v.toNat ≤ 127 := hv
  simp only [UInt32.toUInt8, Nat.toUInt8, UInt8.ofNat, UInt8.toNat, Fin.ofNat]
  simp only [UInt32.toNat, BitVec.toNat_ofNat] at this ⊢
  omega

theorem ascii_mem_utf8EncodeChar (c : Char) (b : UInt8) (hb : b.toNat < 128) :
    b ∈ String.utf8EncodeChar c ↔ c.val.toNat = b.toNat := by
  have hc : c.val.toNat = b.toNat → c.val ≤ 0x7f := fun h => show c.val.toNat ≤ 127 by omega
  simp only [String.utf8EncodeChar]
  split_ifs with h₁ h₂ h₃
  · rw [List.mem_singleton, ← toNat_toUInt8 _ h₁]
    exact ⟨fun h => by rw [h], fun h => UInt8.toNat.inj h.symm⟩
  all_goals
    refine ⟨fun h => ?_, fun h => absurd (hc h) h₁⟩
    simp (disch := decide) only [List.mem_cons, ascii_eq_lor_iff _ _ _ hb, List.mem_nil_iff,
      or_self] at h

/-- An ASCII byte occurs in the encoding of a text exactly where its character does. -/
theorem ascii_mem_utf8 (s : String) (b : UInt8) (hb : b.toNat < 128) :
    b ∈ utf8 s ↔ ∃ c ∈ s.data, c.val.toNat = b.toNat := by
  simp only [utf8, List.mem_flatMap, ascii_mem_utf8EncodeChar _ _ hb]

theorem lf_mem_utf8 (s : String) : (10 : UInt8) ∈ utf8 s ↔ '\n' ∈ s.data := by
  rw [ascii_mem_utf8 _ _ (by decide)]
  refine ⟨fun ⟨c, hc, h⟩ => ?_, fun h => ⟨_, h, rfl⟩⟩
  have : c = '\n' := Char.ext (UInt32.toNat.inj h)
  exact this ▸ hc

/-- The encoding of a text all of whose characters are ASCII is one byte a character. -/
theorem utf8_of_ascii (s : String) (h : ∀ c ∈ s.data, c.val ≤ 0x7f) :
    utf8 s = s.data.map fun c => c.val.toUInt8 := by
  rcases s with ⟨cs⟩
  show cs.flatMap _ = cs.map _
  induction cs with
  | nil => rfl
  | cons c cs ih =>
    simp only [List.forall_mem_cons] at h
    simp [String.utf8EncodeChar, h.1, ih h.2]

end Bytes

section Decimal

/-- A byte that is an ASCII digit. -/
def isDigitByte (b : UInt8) : Bool := 48 ≤ b.toNat && b.toNat ≤ 57

/-- `data <len>`: the decimal number the importer reads before the bytes. -/
def parseDecimal (s : List UInt8) : Option Nat :=
  if s.all isDigitByte then some (s.foldl (fun n b => 10 * n + (b.toNat - 48)) 0) else none

/-- The characters `str(n)` writes are ASCII digits. -/
def IsDigit (c : Char) : Prop := 48 ≤ c.val.toNat ∧ c.val.toNat ≤ 57

theorem digitChar_val (d : Nat) (hd : d < 10) : (Nat.digitChar d).val.toNat = 48 + d := by
  interval_cases d <;> rfl

/-- What `Nat.toDigitsCore` puts before the digits it is given: digits whose value, read from
the left, is the number. -/
theorem toDigitsCore_spec (fuel n : Nat) (ds : List Char) (hn : n < fuel) :
    (∀ c ∈ Nat.toDigitsCore 10 fuel n ds, c ∈ ds ∨ IsDigit c) ∧
      (Nat.toDigitsCore 10 fuel n ds).foldl (fun m c => 10 * m + (c.val.toNat - 48)) 0 =
        ds.foldl (fun m c => 10 * m + (c.val.toNat - 48)) n := by
  induction fuel generalizing n ds with
  | zero => omega
  | succ fuel ih =>
    -- the digit put in front of `ds`, and the number it leaves for the digits before it
    have hd := digitChar_val (n % 10) (Nat.mod_lt _ (by omega))
    have hmem : ∀ c ∈ Nat.digitChar (n % 10) :: ds, c ∈ ds ∨ IsDigit c :=
      List.forall_mem_cons.2 ⟨.inr (by simp only [IsDigit, hd]; omega), fun _ => .inl⟩
    have hfold : (Nat.digitChar (n % 10) :: ds).foldl (fun m c => 10 * m + (c.val.toNat - 48))
        (n / 10) = ds.foldl (fun m c => 10 * m + (c.val.toNat - 48)) n := by
      rw [List.foldl_cons, hd]
      congr 1
      omega
    simp only [Nat.toDigitsCore]
    split_ifs with h
    · exact ⟨hmem, h ▸ hfold⟩
    · obtain ⟨hmem', hfold'⟩ := ih (n / 10) _ (by omega)
      exact ⟨fun c hc => (hmem' c hc).elim (hmem c) .inr, hfold'.trans hfold⟩

theorem isDigit_of_mem_toString (n : Nat) (c : Char) (hc : c ∈ (toString n).data) : IsDigit c :=
  ((toDigitsCore_spec (n + 1) n [] (by omega)).1 c hc).resolve_left (List.not_mem_nil c)

theorem lf_not_mem_toString_nat (n : Nat) : '\n' ∉ (toString n).data :=
  fun h => absurd (isDigit_of_mem_toString n _ h) (by unfold IsDigit; decide)

theorem lf_not_mem_toString_int (t : Int) : '\n' ∉ (toString t).data := by
  cases t with
  | ofNat n => exact lf_not_mem_toString_nat n
  | negSucc n =>
    show '\n' ∉ ("-" ++ toString (n + 1)).data
    simpa using lf_not_mem_toString_nat (n + 1)

theorem parseDecimal_toString (n : Nat) : parseDecimal (utf8 (toString n)) = some n := by
  obtain ⟨hmem, hfold⟩ := toDigitsCore_spec (n + 1) n [] (by omega)
  have hdigit (c) (hc : c ∈ (toString n).data) : IsDigit c :=
    (hmem c hc).resolve_left (List.not_mem_nil c)
  have hascii (c) (hc : c ∈ (toString n).data) : c.val ≤ 0x7f :=
    show c.val.toNat ≤ 127 by have := hdigit c hc; simp only [IsDigit] at this; omega
  rw [parseDecimal, utf8_of_ascii _ hascii, if_pos]
  · rw [List.foldl_map]
    refine congrArg some ((List.foldl_ext _ _ _ fun m c hc => ?_).trans hfold)
    rw [toNat_toUInt8 _ (hascii c hc)]
  · simp only [List.all_eq_true, List.mem_map]
    rintro _ ⟨c, hc, rfl⟩
    have := hdigit c hc
    simp only [IsDigit] at this
    simp [isDigitByte, toNat_toUInt8 _ (hascii c hc), this]

end Decimal

section Writer

/-- The commands the importers write after the header: an inline blob, a copy of a blob
already in the repository by its object id, and a deletion. -/
inductive Command (α : Type)
  | inline (path : α) (data : List UInt8)
  | copy (sha path : α)
  | delete (path : α)
deriving DecidableEq, Repr

def Command.map {α β : Type} (f : α → β) : Command α → Command β
  | inline p d => inline (f p) d
  | copy s p => copy (f s) (f p)
  | delete p => delete (f p)

/-- `write_blob_to_stream(stream, blob_path, blob_data)`. -/
def writeBlobToStream (blobPath : String) (blobData : List UInt8) : List UInt8 :=
  utf8 ("M 644 inline " ++ blobPath ++ "\ndata " ++ toString blobData.length ++ "\n") ++
    blobData ++ utf8 "\n"

/-- `copy_existing_blob_to_stream(stream, blob_path, blob_sha)`. -/
def copyExistingBlobToStream (blobPath blobSha : String) : List UInt8 :=
  utf8 ("M 644 " ++ blobSha ++ " " ++ blobPath ++ "\n")

/-- The line `TileImporter.import_tiles` writes to delete a dataset or a tile. -/
def deleteToStream (path : String) : List UInt8 := utf8 ("D " ++ path ++ "\n")

def Command.write : Command String → List UInt8
  | .inline p d => writeBlobToStream p d
  | .copy s p => copyExistingBlobToStream p s
  | .delete p => deleteToStream p

/-- A `pygit2.Signature`, with the fields `generate_header` reads. -/
structure Signature where
  name : String
  email : String
  time : Int
  offset : Int
deriving DecidableEq, Repr

/-- An object id as `git` prints it: lowercase hexadecimal. -/
def isHexDigit (c : Char) : Bool := c.isDigit || ('a' ≤ c && c ≤ 'f')

/-- What the importers write for a command is a line of its own, and an object id is hex. -/
def Command.Valid : Command String → Prop
  | .inline p _ => '\n' ∉ p.data
  | .copy s p => (∀ c ∈ s.data, isHexDigit c) ∧ '\n' ∉ p.data
  | .delete p => '\n' ∉ p.data

instance : (c : Command String) → Decidable c.Valid
  | .inline p _ => inferInstanceAs (Decidable ('\n' ∉ p.data))
  | .copy s p => inferInstanceAs (Decidable ((∀ c ∈ s.data, isHexDigit c) ∧ '\n' ∉ p.data))
  | .delete p => inferInstanceAs (Decidable ('\n' ∉ p.data))

variable (minutesToTzOffset : Int → String)

/-- What `generate_header` writes after `author ` or `committer `; `minutes_to_tz_offset` is
not part of the modelled sources, so it is a parameter. -/
def Signature.line (s : Signature) : String :=
  s.name ++ " <" ++ s.email ++ "> " ++ toString s.time ++ " " ++ minutesToTzOffset s.offset

def Signature.Valid (s : Signature) : Prop :=
  '\n' ∉ s.name.data ∧ '\n' ∉ s.email.data ∧ '\n' ∉ (minutesToTzOffset s.offset).data

instance (s : Signature) : Decidable (s.Valid minutesToTzOffset) :=
  inferInstanceAs (Decidable (_ ∧ _ ∧ _))

/-- `generate_header(repo, sources, message, branch, from_commit)` once the message is known;
`from_commit` is given by its oid. -/
def generateHeader (author committer : Signature) (message branch : String)
    (fromCommit : Option String) : String :=
  let result := "commit " ++ branch ++ "\n" ++
    "author " ++ author.line minutesToTzOffset ++ "\n" ++
    "committer " ++ committer.line minutesToTzOffset ++ "\n" ++
    "data " ++ toString (utf8 message).length ++ "\n" ++ message ++ "\n"
  match fromCommit with
  | some oid => result ++ "from " ++ oid ++ "\n"
  | none => result

/-- The bytes an importer sends: `header.encode("utf8")`, then each command in turn. -/
def importStream (header : String) (commands : List (Command String)) : List UInt8 :=
  utf8 header ++ commands.flatMap Command.write

end Writer

section Reader

/-- The bytes before the first `b` and those after it; `none` when no `b` follows. -/
def splitAtByte (b : UInt8) : List UInt8 → Option (List UInt8 × List UInt8)
  | [] => none
  | x :: xs => if x = b then some ([], xs) else (splitAtByte b xs).map fun p => (x :: p.1, p.2)

/-- A line: the bytes up to the next line feed, and the bytes after it. -/
def readLine (s : List UInt8) : Option (List UInt8 × List UInt8) := splitAtByte 10 s

/-- `<keyword><text>\n`: the text of a line that starts with the keyword. -/
def readField (keyword : String) (s : List UInt8) : Option (List UInt8 × List UInt8) :=
  (s.dropPrefix? (utf8 keyword)).bind readLine

/-- `data <len>\n<bytes>\n`: length-prefixed bytes, and the line feed after them if there is one. -/
def readData (s : List UInt8) : Option (List UInt8 × List UInt8) := do
  let (len, s) ← readField "data " s
  let n ← parseDecimal len
  if n ≤ s.length then
    let r := s.drop n
    some (s.take n, if r.head? = some 10 then r.tail else r)
  else none

/-- A commit header as the reader sees it: each field as the bytes written for it. -/
structure Header where
  ref : List UInt8
  author : List UInt8
  committer : List UInt8
  message : List UInt8
  fromOid : Option (List UInt8)
deriving DecidableEq, Repr

/-- `commit <ref>`, `author …`, `committer …`, `data <len>` and an optional `from <oid>`. -/
def parseHeader (s : List UInt8) : Option (Header × List UInt8) := do
  let (ref, s) ← readField "commit " s
  let (author, s) ← readField "author " s
  let (committer, s) ← readField "committer " s
  let (message, s) ← readData s
  match readField "from " s with
  | some (oid, s) => pure (⟨ref, author, committer, message, some oid⟩, s)
  | none => pure (⟨ref, author, committer, message, none⟩, s)

/-- `M 644 inline <path>` and its data, `M 644 <oid> <path>`, or `D <path>`. -/
def parseCommand (s : List UInt8) : Option (Command (List UInt8) × List UInt8) :=
  match s.dropPrefix? (utf8 "M 644 ") with
  | some s => do
    let (dataref, s) ← splitAtByte 32 s
    let (path, s) ← readLine s
    if dataref = utf8 "inline" then
      let (data, s) ← readData s
      pure (.inline path data, s)
    else pure (.copy dataref path, s)
  | none => do
    let (path, s) ← readField "D " s
    pure (.delete path, s)

/-- Commands up to the end of the stream; a command takes at least one byte, so the stream's
length is enough fuel. -/
def parseCommands : Nat → List UInt8 → Option (List (Command (List UInt8)))
  | 0, s => if s.isEmpty then some [] else none
  | fuel + 1, s => if s.isEmpty then some [] else do
    let (c, s) ← parseCommand s
    let cs ← parseCommands fuel s
    pure (c :: cs)

def parseStream (s : List UInt8) : Option (Header × List (Command (List UInt8))) := do
  let (h, s) ← parseHeader s
  let cs ← parseCommands s.length s
  pure (h, cs)

end Reader

section RoundTrip
variable (minutesToTzOffset : Int → String)

/-- The header the reader should see: each field as the bytes `generate_header` writes for it. -/
def Header.ofCommit (author committer : Signature) (message branch : String)
    (fromCommit : Option String) : Header :=
  ⟨utf8 branch, utf8 (author.line minutesToTzOffset), utf8 (committer.line minutesToTzOffset),
    utf8 message, fromCommit.map utf8⟩

@[simp] theorem utf8_lf : utf8 "\n" = [10] := rfl

theorem splitAtByte_append (b : UInt8) (xs r : List UInt8) (h : b ∉ xs) :
    splitAtByte b (xs ++ b :: r) = some (xs, r) := by
  induction xs with
  | nil => simp [splitAtByte]
  | cons x xs ih =>
    rw [List.mem_cons, not_or] at h
    simp [splitAtByte, Ne.symm h.1, ih h.2]

theorem dropPrefix?_utf8 (k : String) (r : List UInt8) :
    (utf8 k ++ r).dropPrefix? (utf8 k) = some r :=
  List.dropPrefix?_append_of_beq r (beq_self_eq_true _)

theorem readLine_utf8 (s : String) (r : List UInt8) (h : '\n' ∉ s.data) :
    readLine (utf8 s ++ 10 :: r) = some (utf8 s, r) :=
  splitAtByte_append _ _ _ ((lf_mem_utf8 s).not.2 h)

theorem readField_utf8 (k s : String) (r : List UInt8) (h : '\n' ∉ s.data) :
    readField k (utf8 k ++ (utf8 s ++ 10 :: r)) = some (utf8 s, r) := by
  simp only [readField, dropPrefix?_utf8, Option.some_bind, readLine_utf8 _ _ h]

theorem readData_utf8 (d r : List UInt8) :
    readData (utf8 "data " ++ (utf8 (toString d.length) ++ 10 :: (d ++ 10 :: r))) = some (d, r) := by
  have hlen : d.length ≤ (d ++ 10 :: r).length := by simp
  simp only [readData, readField_utf8 _ _ _ (lf_not_mem_toString_nat _), parseDecimal_toString,
    Option.bind_eq_bind, Option.some_bind, if_pos hlen, List.take_left, List.drop_left]
  rfl

theorem hexDigit_val (c : Char) (h : isHexDigit c = true) :
    48 ≤ c.val.toNat ∧ c.val.toNat ≤ 57 ∨ 97 ≤ c.val.toNat ∧ c.val.toNat ≤ 102 := by
  simp only [isHexDigit, Char.isDigit, Bool.or_eq_true, Bool.and_eq_true, decide_eq_true_eq] at h
  exact h

/-- An ASCII byte that is no hex digit does not occur in the bytes of an object id. -/
theorem not_mem_utf8_hex (s : String) (hs : ∀ c ∈ s.data, isHexDigit c) (b : UInt8)
    (hb : b.toNat < 48 ∨ 57 < b.toNat ∧ b.toNat < 97 ∨ 102 < b.toNat ∧ b.toNat < 128) :
    b ∉ utf8 s := by
  rw [ascii_mem_utf8 _ _ (by omega)]
  rintro ⟨c, hc, h⟩
  have := hexDigit_val c (hs c hc)
  omega

theorem parseCommand_writeBlobToStream (p : String) (d r : List UInt8) (hp : '\n' ∉ p.data) :
    parseCommand (writeBlobToStream p d ++ r) = some (.inline (utf8 p) d, r) := by
  have hw : writeBlobToStream p d ++ r = utf8 "M 644 " ++ (utf8 "inline" ++ 32 :: (utf8 p ++ 10 ::
      (utf8 "data " ++ (utf8 (toString d.length) ++ 10 :: (d ++ 10 :: r))))) := by
    simp only [writeBlobToStream, utf8_append, List.append_assoc]
    rfl
  rw [hw]
  simp [parseCommand, dropPrefix?_utf8, splitAtByte_append _ _ _ (show 32 ∉ utf8 "inline" by decide),
    readLine_utf8 _ _ hp, readData_utf8]

theorem parseCommand_copyExistingBlobToStream (p sha : String) (r : List UInt8)
    (hsha : ∀ c ∈ sha.data, isHexDigit c) (hp : '\n' ∉ p.data) :
    parseCommand (copyExistingBlobToStream p sha ++ r) = some (.copy (utf8 sha) (utf8 p), r) := by
  have hw : copyExistingBlobToStream p sha ++ r = utf8 "M 644 " ++ (utf8 sha ++ 32 :: (utf8 p ++ 10 :: r)) := by
    simp only [copyExistingBlobToStream, utf8_append, List.append_assoc]
    rfl
  have hne : utf8 sha ≠ utf8 "inline" := fun h =>
    not_mem_utf8_hex sha hsha 105 (by decide) (h ▸ by decide)
  rw [hw]
  simp [parseCommand, dropPrefix?_utf8, splitAtByte_append _ _ _ (not_mem_utf8_hex sha hsha 32 (by decide)),
    readLine_utf8 _ _ hp, hne]

theorem parseCommand_deleteToStream (p : String) (r : List UInt8) (hp : '\n' ∉ p.data) :
    parseCommand (deleteToStream p ++ r) = some (.delete (utf8 p), r) := by
  have hw : deleteToStream p ++ r = utf8 "D " ++ (utf8 p ++ 10 :: r) := by
    simp only [deleteToStream, utf8_append, List.append_assoc]
    rfl
  have hm : (utf8 "D " ++ (utf8 p ++ 10 :: r)).dropPrefix? (utf8 "M 644 ") = none := rfl
  rw [hw, parseCommand, hm]
  simp [readField_utf8 _ _ _ hp]

theorem parseCommand_write (c : Command String) (hc : c.Valid) (r : List UInt8) :
    parseCommand (c.write ++ r) = some (c.map utf8, r) := by
  cases c with
  | inline p d => exact parseCommand_writeBlobToStream p d r hc
  | copy sha p => exact parseCommand_copyExistingBlobToStream p sha r hc.1 hc.2
  | delete p => exact parseCommand_deleteToStream p r hc

/-- A command starts with `M` or `D`, never with the `from` of a header. -/
theorem readField_from_write (cs : List (Command String)) :
    readField "from " (cs.flatMap Command.write) = none := by
  cases cs with
  | nil => rfl
  | cons c cs => cases c <;> rfl

theorem write_ne_nil (c : Command String) : c.write ≠ [] := by
  cases c <;> exact fun h => nomatch congrArg List.length h

theorem parseCommands_write (cs : List (Command String)) (hcs : ∀ c ∈ cs, c.Valid) (fuel : Nat)
    (hfuel : cs.length ≤ fuel) :
    parseCommands fuel (cs.flatMap Command.write) = some (cs.map (Command.map utf8)) := by
  induction cs generalizing fuel with
  | nil => cases fuel <;> rfl
  | cons c cs ih =>
    obtain ⟨fuel, rfl⟩ : ∃ f, fuel = f + 1 := ⟨fuel - 1, by simp at hfuel; omega⟩
    rw [List.forall_mem_cons] at hcs
    simp [parseCommands, write_ne_nil, parseCommand_write c hcs.1,
      ih hcs.2 fuel (by simpa using hfuel)]

theorem length_le_flatMap_write (cs : List (Command String)) :
    cs.length ≤ (cs.flatMap Command.write).length := by
  induction cs with
  | nil => rfl
  | cons c cs ih =>
    have := List.length_pos_of_ne_nil (write_ne_nil c)
    simp only [List.flatMap_cons, List.length_append, List.length_cons]
    omega

theorem Signature.Valid.line {s : Signature} (h : s.Valid minutesToTzOffset) :
    '\n' ∉ (s.line minutesToTzOffset).data := by
  simp [Signature.line, h.1, h.2.1, h.2.2, lf_not_mem_toString_int]

theorem parseHeader_generateHeader (author committer : Signature) (message branch : String)
    (fromCommit : Option String) (hauthor : author.Valid minutesToTzOffset)
    (hcommitter : committer.Valid minutesToTzOffset) (hbranch : '\n' ∉ branch.data)
    (hfrom : ∀ oid ∈ fromCommit, '\n' ∉ oid.data) (r : List UInt8)
    (hr : fromCommit = none → readField "from " r = none) :
    parseHeader (utf8 (generateHeader minutesToTzOffset author committer message branch fromCommit) ++ r) =
      some (Header.ofCommit minutesToTzOffset author committer message branch fromCommit, r) := by
  have hdata := readData_utf8 (utf8 message)
  cases fromCommit with
  | none =>
    simp only [generateHeader, utf8_append, utf8_lf, List.append_assoc, List.cons_append,
      List.nil_append]
    simp only [parseHeader, readField_utf8 _ _ _ hbranch, readField_utf8 _ _ _ hauthor.line,
      readField_utf8 _ _ _ hcommitter.line, hdata, hr rfl, Option.bind_eq_bind, Option.some_bind]
    rfl
  | some oid =>
    simp only [generateHeader, utf8_append, utf8_lf, List.append_assoc, List.cons_append,
      List.nil_append]
    simp only [parseHeader, readField_utf8 _ _ _ hbranch, readField_utf8 _ _ _ hauthor.line,
      readField_utf8 _ _ _ hcommitter.line, hdata, readField_utf8 _ _ _ (hfrom oid rfl),
      Option.bind_eq_bind, Option.some_bind]
    rfl

/-- The stream is read back as it was written: the header, then each command with its path, its
object id and its bytes, whatever the message and the blobs hold, as long as every name that ends
at a line feed holds none itself and object ids are hex. -/
theorem parseStream_importStream (author committer : Signature) (message branch : String)
    (fromCommit : Option String) (commands : List (Command String))
    (hauthor : author.Valid minutesToTzOffset) (hcommitter : committer.Valid minutesToTzOffset)
    (hbranch : '\n' ∉ branch.data) (hfrom : ∀ oid ∈ fromCommit, '\n' ∉ oid.data)
    (hcommands : ∀ c ∈ commands, c.Valid) :
    parseStream (importStream (generateHeader minutesToTzOffset author committer message branch
        fromCommit) commands) =
      some (Header.ofCommit minutesToTzOffset author committer message branch fromCommit,
        commands.map (Command.map utf8)) := by
  rw [parseStream, importStream, parseHeader_generateHeader _ _ _ _ _ _ hauthor hcommitter hbranch
    hfrom _ fun _ => readField_from_write commands]
  simp only [Option.bind_eq_bind, Option.some_bind]
  rw [parseCommands_write commands hcommands _ (length_le_flatMap_write commands)]
  rfl

end RoundTrip

theorem parseStream_importStream_inline_copy :
    let sig : Signature := ⟨"Kart", "kart@example.com", 1700000000, 720⟩
    let tz : Int → String := fun _ => "+1200"
    let commands := [Command.inline "ds/.point-cloud-dataset.v1/tile/ab/a.laz" [10, 68, 32],
      .copy "0123abcd" "ds/.point-cloud-dataset.v1/meta/title", .delete "ds/old"]
    (sig.Valid tz ∧ sig.Valid tz ∧ '\n' ∉ "refs/kart/import".data ∧ (∀ oid ∈ some "fe01", '\n' ∉ oid.data) ∧
      ∀ c ∈ commands, c.Valid) ∧
    parseStream (importStream (generateHeader tz sig sig "Import\n\ndata 3\n" "refs/kart/import" (some "fe01"))
        commands) =
      some (Header.ofCommit tz sig sig "Import\n\ndata 3\n" "refs/kart/import" (some "fe01"),
        commands.map (Command.map utf8)) :=
  have h : (⟨"Kart", "kart@example.com", 1700000000, 720⟩ : Signature).Valid (fun _ => "+1200") := by
    decide
  ⟨⟨h, h, by decide, by decide, by decide⟩, parseStream_importStream _ _ _ _ _ _ _ h h (by decide)
    (by decide) (by decide)⟩

section Tree

/-- What a path of the importer's tree holds: bytes written inline, or a blob already in the
repository, named by its object id. -/
inductive Blob
  | bytes (data : List UInt8)
  | existing (sha : String)
deriving DecidableEq, Repr

/-- `D <path>` removes the path and everything below it. -/
def deletes (path q : String) : Bool := q == path || (path ++ "/").isPrefixOf q

/-- Whether a command sets or removes what the tree holds at a path. -/
def Command.Touches : Command String → String → Bool
  | .inline p _, q | .copy _ p, q => q == p
  | .delete p, q => deletes p q

/-- What one command does to the tree the importer builds. -/
def Command.apply (t : String → Option Blob) : Command String → String → Option Blob
  | .inline p d => Function.update t p (some (.bytes d))
  | .copy s p => Function.update t p (some (.existing s))
  | .delete p => fun q => if deletes p q then none else t q

/-- The tree after the commands, each applied in stream order. -/
def applyCommands (t : String → Option Blob) (cs : List (Command String)) : String → Option Blob :=
  cs.foldl Command.apply t

@[simp] theorem applyCommands_append (t : String → Option Blob) (A B : List (Command String)) :
    applyCommands t (A ++ B) = applyCommands (applyCommands t A) B :=
  List.foldl_append _ _ _ _

theorem Command.apply_of_not_touches (c : Command String) (t : String → Option Blob) (q : String)
    (h : c.Touches q = false) : c.apply t q = t q := by
  cases c <;> simp_all [Command.Touches, Command.apply, Function.update_noteq]

/-- Where a command touches a path, what the path holds after it does not depend on before. -/
theorem Command.apply_of_touches (c : Command String) (t t' : String → Option Blob) (q : String)
    (h : c.Touches q = true) : c.apply t q = c.apply t' q := by
  cases c with
  | delete p => simp [Command.apply, show deletes p q = true from h]
  | _ => obtain rfl : q = _ := beq_iff_eq.1 h; simp [Command.apply]

theorem applyCommands_of_not_touches (cs : List (Command String)) (t : String → Option Blob)
    (q : String) (h : ∀ c ∈ cs, c.Touches q = false) : applyCommands t cs q = t q := by
  induction cs generalizing t with
  | nil => rfl
  | cons c cs ih =>
    rw [List.forall_mem_cons] at h
    exact (ih _ h.2).trans (c.apply_of_not_touches t q h.1)

theorem applyCommands_of_touches (cs : List (Command String)) (t t' : String → Option Blob)
    (q : String) (h : ∃ c ∈ cs, c.Touches q = true) : applyCommands t cs q = applyCommands t' cs q := by
  induction cs generalizing t t' with
  | nil => simp at h
  | cons c cs ih =>
    by_cases hcs : ∃ c ∈ cs, c.Touches q = true
    · exact ih _ _ hcs
    · have hc : c.Touches q = true := by simpa [hcs] using h
      simp only [not_exists, not_and, Bool.not_eq_true] at hcs
      show applyCommands (c.apply t) cs q = applyCommands (c.apply t') cs q
      rw [applyCommands_of_not_touches cs _ q hcs, applyCommands_of_not_touches cs _ q hcs,
        c.apply_of_touches t t' q hc]

/-- Command lists that touch no common path commute. -/
theorem applyCommands_comm (A B : List (Command String))
    (h : ∀ q, (∃ c ∈ A, c.Touches q = true) → ∀ c ∈ B, c.Touches q = false)
    (t : String → Option Blob) :
    applyCommands (applyCommands t A) B = applyCommands (applyCommands t B) A := by
  funext q
  by_cases hA : ∃ c ∈ A, c.Touches q = true
  · rw [applyCommands_of_not_touches B _ q (h q hA), applyCommands_of_touches A t _ q hA]
  · simp only [not_exists, not_and, Bool.not_eq_true] at hA
    rw [applyCommands_of_not_touches A _ q hA]
    by_cases hB : ∃ c ∈ B, c.Touches q = true
    · exact applyCommands_of_touches B _ t q hB
    · simp only [not_exists, not_and, Bool.not_eq_true] at hB
      rw [applyCommands_of_not_touches B _ q hB, applyCommands_of_not_touches B _ q hB,
        applyCommands_of_not_touches A _ q hA]

/-- Blocks of commands that touch pairwise disjoint paths give one tree in any order. -/
theorem applyCommands_flatMap_perm {ι : Type} (block : ι → List (Command String)) {l₁ l₂ : List ι}
    (hp : l₁.Perm l₂) (hnodup : l₁.Nodup)
    (hdisjoint : ∀ a ∈ l₁, ∀ b ∈ l₁, a ≠ b →
      ∀ q, (∃ c ∈ block a, c.Touches q = true) → ∀ c ∈ block b, c.Touches q = false)
    (t : String → Option Blob) :
    applyCommands t (l₁.flatMap block) = applyCommands t (l₂.flatMap block) := by
  induction hp generalizing t with
  | nil => rfl
  | cons x _ ih =>
    simp only [List.flatMap_cons, applyCommands_append]
    exact ih (List.nodup_cons.1 hnodup).2
      (fun a ha b hb => hdisjoint a (.tail _ ha) b (.tail _ hb)) _
  | swap x y l =>
    have hxy : x ≠ y := fun h => (List.nodup_cons.1 hnodup).1 (h ▸ .head _)
    simp only [List.flatMap_cons, applyCommands_append]
    rw [applyCommands_comm (block y) (block x)
      (hdisjoint y (.head _) x (.tail _ (.head _)) (Ne.symm hxy))]
  | trans h₁₂ _ ih₁ ih₂ =>
    exact (ih₁ hnodup hdisjoint t).trans (ih₂ (h₁₂.nodup_iff.1 hnodup)
      (fun a ha b hb => hdisjoint a (h₁₂.mem_iff.2 ha) b (h₁₂.mem_iff.2 hb)) t)

end Tree

end Kart.FastImport
