import RpcBindings.Checkout
import Mathlib.Data.List.Basic

/-!
# The provenance of generated modules

The header of a generated module holds a digest of its sources.  The bytes that the digest is taken
of are the paths and the texts of all files in UTF-8, with a zero byte after each.  In UTF-8 a zero
byte stands for the null character and for nothing else.  So where paths and texts have no null
characters, each zero byte is the end of one of them, and the bytes determine what they are made of.

## Main definitions

* `Checkout.sources` — the paths and texts of the files, in the order in which they are read.
* `Source.File.HasNoNull`, `Checkout.HasNoNull` — no path and no text has a null character.

## Main results

* `zero_notMem_toUTF8` — only a null character gives a zero byte.
* `append_zero_inj` — bytes are read off up to the first zero byte.
* `Checkout.fileBytes_append_inj` — the bytes of a file are read in front of any others.
* `Checkout.stream_covers_sources` — **the bytes are the same exactly if the sources are.**
-/

namespace RpcBindings

open Source

/-! ### Bytes of a text -/

theorem toList_loop (bytes : ByteArray) (i : Nat) (before : List UInt8) :
    ByteArray.toList.loop bytes i before = before.reverse ++ bytes.data.toList.drop i := by
  fun_induction ByteArray.toList.loop bytes i before with
  | case1 i before h ih =>
    have hi : i < bytes.data.toList.length := by simpa using h
    have hget : bytes.get! i = bytes.data.toList[i] := by simp [ByteArray.get!, h]
    rw [ih, List.drop_eq_getElem_cons hi, hget]
    simp
  | case2 i before h =>
    have hi : bytes.data.toList.length ≤ i := by simpa using Nat.le_of_not_lt h
    rw [List.drop_eq_nil_of_le hi, List.append_nil]

theorem toList_eq_toList_data (bytes : ByteArray) : bytes.toList = bytes.data.toList := by
  rw [ByteArray.toList, toList_loop]
  rfl

/-- The bytes of a text are those of its characters. -/
theorem toList_toUTF8 (s : String) : s.toUTF8.toList = s.toList.flatMap String.utf8EncodeChar := by
  have h : s.toUTF8 = s.toList.utf8Encode := by
    have hback : s = String.ofList s.toList := by simp
    conv_lhs => rw [hback]
    exact String.toByteArray_ofList
  rw [h, List.utf8Encode, toList_eq_toList_data, List.toList_data_toByteArray]

/-- Texts with the same bytes are the same. -/
theorem toUTF8_toList_inj {s t : String} (h : s.toUTF8.toList = t.toUTF8.toList) : s = t := by
  rw [toList_eq_toList_data, toList_eq_toList_data] at h
  exact String.toByteArray_inj.mp (ByteArray.ext (Array.toList_inj.mp h))

theorem zero_ne_ofNat {n : Nat} (h : n % 256 ≠ 0) : (0 : UInt8) ≠ UInt8.ofNat n := by
  intro heq
  have hval := congrArg UInt8.toNat heq
  rw [UInt8.toNat_ofNat'] at hval
  exact h hval.symm

/-- No byte of a character is zero, unless it is the null character: every byte of a longer encoding
is at least 128. -/
theorem zero_notMem_utf8EncodeChar {c : Char} (hc : c ≠ '\x00') :
    0 ∉ String.utf8EncodeChar c := by
  have hpos : c.val.toNat ≠ 0 := by
    intro hzero
    exact hc (Char.ext (UInt32.toNat_inj.mp hzero))
  unfold String.utf8EncodeChar
  generalize c.val.toNat = v at hpos
  dsimp only
  split
  · simpa using zero_ne_ofNat (n := v) (by omega)
  split
  · simp only [List.mem_cons, List.not_mem_nil, or_false, not_or]
    exact ⟨zero_ne_ofNat (by omega), zero_ne_ofNat (by omega)⟩
  split
  · simp only [List.mem_cons, List.not_mem_nil, or_false, not_or]
    exact ⟨zero_ne_ofNat (by omega), zero_ne_ofNat (by omega), zero_ne_ofNat (by omega)⟩
  · simp only [List.mem_cons, List.not_mem_nil, or_false, not_or]
    exact ⟨zero_ne_ofNat (by omega), zero_ne_ofNat (by omega), zero_ne_ofNat (by omega),
      zero_ne_ofNat (by omega)⟩

/-- **Only a null character gives a zero byte.** -/
theorem zero_notMem_toUTF8 {s : String} (h : '\x00' ∉ s.toList) : 0 ∉ s.toUTF8.toList := by
  rw [toList_toUTF8, List.mem_flatMap]
  rintro ⟨c, hc, hzero⟩
  refine zero_notMem_utf8EncodeChar ?_ hzero
  rintro rfl
  exact h hc

/-- **Bytes are read off up to the first zero byte.** -/
theorem append_zero_inj {as bs rest rest' : List UInt8} (has : 0 ∉ as) (hbs : 0 ∉ bs)
    (h : as ++ 0 :: rest = bs ++ 0 :: rest') : as = bs ∧ rest = rest' := by
  induction as generalizing bs with
  | nil =>
    cases bs with
    | nil => exact ⟨rfl, (List.cons.inj h).2⟩
    | cons b bs => exact absurd ((List.cons.inj h).1 ▸ List.mem_cons_self) hbs
  | cons a as ih =>
    rw [List.mem_cons, not_or] at has
    cases bs with
    | nil => exact absurd (List.cons.inj h).1.symm has.1
    | cons b bs =>
      rw [List.mem_cons, not_or] at hbs
      obtain ⟨rfl, htail⟩ := List.cons.inj h
      obtain ⟨rfl, hrest⟩ := ih has.2 hbs.2 htail
      exact ⟨rfl, hrest⟩

/-! ### Bytes of a checkout -/

/-- The path and the text of a file. -/
def Source.File.source (f : File) : String × String :=
  (f.path, f.text)

/-- Neither the path nor the text of a file has a null character. -/
def Source.File.HasNoNull (f : File) : Prop :=
  '\x00' ∉ f.path.toList ∧ '\x00' ∉ f.text.toList

namespace Checkout

variable {f g : File} {fs gs : List File} {k k' : Checkout}

/-- The paths and texts of the files, in the order in which they are read: the command classes
first. -/
def sources (k : Checkout) : List (String × String) :=
  (k.commands ++ k.json).map File.source

/-- No path and no text has a null character. -/
def HasNoNull (k : Checkout) : Prop :=
  ∀ f ∈ k.commands ++ k.json, f.HasNoNull

/-- **The bytes of a file are read in front of any others.** -/
theorem fileBytes_append_inj {rest rest' : List UInt8} (hf : f.HasNoNull) (hg : g.HasNoNull)
    (h : fileBytes f ++ rest = fileBytes g ++ rest') : f.source = g.source ∧ rest = rest' := by
  have hassoc : ∀ (f : File) (rest : List UInt8), fileBytes f ++ rest
      = f.path.toUTF8.toList ++ 0 :: (f.text.toUTF8.toList ++ 0 :: rest) := by
    intro f rest
    simp [fileBytes]
  rw [hassoc, hassoc] at h
  obtain ⟨hpath, h⟩ := append_zero_inj (zero_notMem_toUTF8 hf.1) (zero_notMem_toUTF8 hg.1) h
  obtain ⟨htext, hrest⟩ := append_zero_inj (zero_notMem_toUTF8 hf.2) (zero_notMem_toUTF8 hg.2) h
  exact ⟨Prod.ext (toUTF8_toList_inj hpath) (toUTF8_toList_inj htext), hrest⟩

theorem fileBytes_ne_nil (f : File) : fileBytes f ≠ [] := by
  simp [fileBytes]

/-- Files with the same bytes one after another are the same, as far as path and text go. -/
theorem map_source_of_flatMap_fileBytes (hfs : ∀ f ∈ fs, f.HasNoNull)
    (hgs : ∀ g ∈ gs, g.HasNoNull)
    (h : fs.flatMap fileBytes = gs.flatMap fileBytes) :
    fs.map File.source = gs.map File.source := by
  induction fs generalizing gs with
  | nil =>
    cases gs with
    | nil => rfl
    | cons g gs =>
      -- a further file would have further bytes
      rw [List.flatMap_nil, List.flatMap_cons, eq_comm, List.append_eq_nil_iff] at h
      exact absurd h.1 (fileBytes_ne_nil g)
  | cons f fs ih =>
    obtain ⟨hf, hfs⟩ := List.forall_mem_cons.mp hfs
    cases gs with
    | nil =>
      rw [List.flatMap_nil, List.flatMap_cons, List.append_eq_nil_iff] at h
      exact absurd h.1 (fileBytes_ne_nil f)
    | cons g gs =>
      obtain ⟨hg, hgs⟩ := List.forall_mem_cons.mp hgs
      rw [List.flatMap_cons, List.flatMap_cons] at h
      obtain ⟨hsource, hrest⟩ := fileBytes_append_inj hf hg h
      rw [List.map_cons, List.map_cons, hsource, ih hfs hgs hrest]

/-- The bytes of a file depend on its path and its text only. -/
theorem stream_eq_flatMap_sources (k : Checkout) :
    k.stream = k.sources.flatMap fun s => s.1.toUTF8.toList ++ 0 :: s.2.toUTF8.toList ++ [0] := by
  rw [stream, sources, List.flatMap_map]
  rfl

/-- The headers of two runs agree if the digests of the bytes do. -/
theorem header_eq_iff {c c' : Config} (hc : c.output.provenance = true)
    (hc' : c'.output.provenance = true) :
    k.header c = k'.header c' ↔ Digest.sha256 k.stream = Digest.sha256 k'.stream := by
  rw [header, header, if_pos hc, if_pos hc']
  simp

/-- **The bytes are the same exactly if the sources are**: the same paths and texts in the same
order.  They are what the digest in the header is taken of. -/
theorem stream_covers_sources (hk : k.HasNoNull) (hk' : k'.HasNoNull) :
    (k.stream = k'.stream ↔ k.sources = k'.sources) ∧
      ∀ c c' : Config, c.output.provenance = true → c'.output.provenance = true →
        (k.header c = k'.header c' ↔ Digest.sha256 k.stream = Digest.sha256 k'.stream) := by
  refine ⟨⟨map_source_of_flatMap_fileBytes hk hk', fun h => ?_⟩, fun c c' => header_eq_iff⟩
  rw [stream_eq_flatMap_sources, stream_eq_flatMap_sources, h]

theorem exists_ofText? {text : String} (path : String)
    (h : (Node.ofText? text.toList).isSome = true) :
    ∃ f, File.ofText? path text = some f ∧ f.source = (path, text) := by
  obtain ⟨root, hroot⟩ := Option.isSome_iff_exists.mp h
  refine ⟨⟨path, text, root⟩, ?_, rfl⟩
  rw [File.ofText?, hroot]
  rfl

/-- A class that moves from one file to the next one changes the bytes. -/
theorem movedClass_stream_covers_sources :
    ∃ a b a' b', File.ofText? "A.java" "class A \x7b\x7d" = some a ∧
      File.ofText? "B.java" "" = some b ∧ File.ofText? "A.java" "" = some a' ∧
      File.ofText? "B.java" "class A \x7b\x7d" = some b' ∧
      (⟨[a, b], []⟩ : Checkout).HasNoNull ∧ (⟨[a', b'], []⟩ : Checkout).HasNoNull ∧
      (⟨[a, b], []⟩ : Checkout).stream ≠ (⟨[a', b'], []⟩ : Checkout).stream := by
  have hclass : (Node.ofText? "class A \x7b\x7d".toList).isSome = true := by decide +kernel
  have hempty : (Node.ofText? "".toList).isSome = true := by decide +kernel
  obtain ⟨a, ha, hasource⟩ := exists_ofText? "A.java" hclass
  obtain ⟨b, hb, hbsource⟩ := exists_ofText? "B.java" hempty
  obtain ⟨a', ha', hasource'⟩ := exists_ofText? "A.java" hempty
  obtain ⟨b', hb', hbsource'⟩ := exists_ofText? "B.java" hclass
  have hnull : ∀ {f : File} {path text : String}, f.source = (path, text) →
      '\x00' ∉ path.toList → '\x00' ∉ text.toList → f.HasNoNull := by
    rintro f path text ⟨rfl⟩ hpath htext
    exact ⟨hpath, htext⟩
  have hfiles : (⟨[a, b], []⟩ : Checkout).HasNoNull := by
    refine List.forall_mem_cons.mpr ⟨?_, List.forall_mem_singleton.mpr ?_⟩
    · exact hnull hasource (by decide) (by decide)
    · exact hnull hbsource (by decide) (by decide)
  have hfiles' : (⟨[a', b'], []⟩ : Checkout).HasNoNull := by
    refine List.forall_mem_cons.mpr ⟨?_, List.forall_mem_singleton.mpr ?_⟩
    · exact hnull hasource' (by decide) (by decide)
    · exact hnull hbsource' (by decide) (by decide)
  refine ⟨a, b, a', b', ha, hb, ha', hb', hfiles, hfiles', fun hstream => ?_⟩
  have hsources := (stream_covers_sources hfiles hfiles').1.mp hstream
  simp [sources, hasource, hbsource, hasource', hbsource'] at hsources

end Checkout

end RpcBindings
