import SessionReplay.Picture.Lossless.File
import SessionReplay.Picture.Lossless.Header

/-!
# The size in the header of a file

Code tables and tokens are written behind the header of a frame, and what has been written completely is
never touched again (`Bits.Keeps`). The header fills five bytes, the size of the picture among them, so
whatever the pixels are, the file of a bitmap tells its size (`sizeOfFile?_file`), as long as its sides
fit into fourteen bits each.
-/

namespace SessionReplay.Lossless

namespace Bits

/-- The bytes that are complete stay, and others may come behind them. -/
def Keeps (s t : Bits) : Prop := s.bytes.data.toList <+: t.bytes.data.toList

/-- Bits begin with themselves. -/
theorem Keeps.refl (s : Bits) : s.Keeps s := List.prefix_refl _

/-- What begins with bits that begin with others begins with these. -/
theorem Keeps.trans {s t u : Bits} (h : s.Keeps t) (h' : t.Keeps u) : s.Keeps u :=
  List.IsPrefix.trans h h'

/-- Bytes that are moved out of the pending bits come behind the others. -/
theorem prefix_spill (bytes : ByteArray) (pending n : Nat) :
    bytes.data.toList <+: (spill bytes pending n).1.data.toList := by
  induction n generalizing bytes pending with
  | zero => exact List.prefix_refl _
  | succ n ih =>
    refine List.IsPrefix.trans ?_ (ih (bytes.push _) _)
    simp

/-- A write keeps the bytes that are there. -/
theorem keeps_write (s : Bits) (count value : Nat) : s.Keeps (s.write count value) :=
  prefix_spill s.bytes _ _

/-- What every single writer keeps is kept by several. -/
theorem keeps_foldl {α : Type} {f : Bits → α → Bits} (hf : ∀ (s : Bits) (a : α), s.Keeps (f s a))
    (as : List α) (s : Bits) : s.Keeps (as.foldl f s) := by
  induction as generalizing s with
  | nil => exact .refl s
  | cons a as ih => exact (hf s a).trans (ih (f s a))

/-- So do several writes. -/
theorem keeps_writeAll (s : Bits) (parts : List (Nat × Nat)) : s.Keeps (s.writeAll parts) := by
  unfold writeAll
  exact keeps_foldl (fun s p => keeps_write s p.1 p.2) parts s

/-- Padding the last byte leaves the complete ones. -/
theorem prefix_finish (s : Bits) : s.bytes.data.toList <+: s.finish.data.toList := by
  unfold finish
  split
  · exact List.prefix_refl _
  · simp

end Bits

open Bits

/-- So does the table of a single symbol. -/
theorem keeps_writeSingle (s : Bits) (symbol : Nat) : s.Keeps (writeSingle s symbol) := by
  unfold writeSingle
  split <;> exact keeps_writeAll s _

/-- So does a symbol. -/
theorem PrefixCode.keeps_write (c : PrefixCode) (s : Bits) (symbol : Nat) : s.Keeps (c.write s symbol) :=
  Bits.keeps_write s _ _

/-- So does the number of lengths that follow. -/
theorem Alphabet.keeps_writeCount (alphabet : Alphabet) (s : Bits) :
    s.Keeps (alphabet.writeCount s) := by
  cases alphabet with
  | bytes => exact keeps_writeAll s _
  | bytesAndRuns => exact Bits.keeps_write s _ _

/-- So does a table of lengths. -/
theorem keeps_writeLengths (s : Bits) (alphabet : Alphabet) (lengths : Array Nat) :
    s.Keeps (writeLengths s alphabet lengths) := by
  have hcount : ∀ parts : List (Nat × Nat),
      s.Keeps (alphabet.writeCount ((s.writeAll [(1, 0), (4, 15)]).writeAll parts)) := by
    intro parts
    exact ((keeps_writeAll s _).trans (keeps_writeAll _ parts)).trans (alphabet.keeps_writeCount _)
  unfold writeLengths
  dsimp only
  split
  · exact hcount _
  · rw [← Array.foldl_toList]
    exact (hcount _).trans (keeps_foldl (PrefixCode.keeps_write _) lengths.toList _)

/-- So does the table of a code. -/
theorem keeps_writeTable (s : Bits) (alphabet : Alphabet) (counts : Array Nat) :
    s.Keeps (writeTable s alphabet counts).1 := by
  unfold writeTable
  split
  · exact keeps_writeSingle s 0
  · exact keeps_writeSingle s _
  · exact keeps_writeLengths s alphabet _

/-- So does a token. -/
theorem Codes.keeps_write (c : Codes) (s : Bits) (t : Token) : s.Keeps (c.write s t) := by
  have hpixel := (((c.green.keeps_write s t.pixel.green.toNat).trans
    (c.red.keeps_write _ t.pixel.red.toNat)).trans
    (c.blue.keeps_write _ t.pixel.blue.toNat)).trans (c.alpha.keeps_write _ t.pixel.alpha.toNat)
  unfold write
  dsimp only
  split
  · exact hpixel
  · exact (hpixel.trans (c.green.keeps_write _ _)).trans (Bits.keeps_write _ _ _)

/-! ## The beginning of a frame -/

/-- The number that the size of a picture is kept in, with the bit that says that pixels have an
opacity. -/
def sizeWord (width height : Nat) : Nat :=
  (width - 1) % 0x4000 + (height - 1) % 0x4000 * 0x4000 + 0x10000000

/-- The first five bytes of a frame: its mark, and the bytes of that number. -/
def frameStart (width height : Nat) : List UInt8 :=
  let word := sizeWord width height
  [0x2f, .ofNat word, .ofNat (word / 256), .ofNat (word / 65536), .ofNat (word / 16777216)]

/-- The header begins with these bytes, and they are complete: forty bits. -/
theorem bytes_frameStart (width height : Nat) :
    (Bits.writeAll {} [(8, 0x2f), (14, width - 1), (14, height - 1), (1, 1), (3, 0)]).bytes.data.toList
      = frameStart width height := by
  have hbyte : ∀ m n : Nat, m % 256 = n % 256 → UInt8.ofNat m = UInt8.ofNat n := by
    intro m n h
    rw [← UInt8.toNat_inj]
    simpa using h
  let low := (width - 1) % 0x4000 / 256 + (height - 1) % 0x4000 * 64
  have hwritten : (Bits.writeAll {} [(8, 0x2f), (14, width - 1), (14, height - 1), (1, 1),
      (3, 0)]).bytes.data.toList = [0x2f, .ofNat ((width - 1) % 256), .ofNat (low % 256),
        .ofNat (low / 256 % 256), .ofNat ((low / 256 / 256 + 16) % 256)] := by
    simp [writeAll, write, spill, Nat.shiftLeft_eq, low]
  rw [hwritten]
  simp only [frameStart, sizeWord, List.cons.injEq, true_and, and_true]
  exact ⟨hbyte _ _ (by omega), hbyte _ _ (by omega), hbyte _ _ (by omega), hbyte _ _ (by omega)⟩

/-- Every frame begins with them, whatever tables and tokens come behind. -/
theorem prefix_frame (b : Bitmap) : frameStart b.width b.height <+: (frame b).data.toList := by
  have hheader : Keeps
      (Bits.writeAll {} [(8, 0x2f), (14, b.width - 1), (14, b.height - 1), (1, 1), (3, 0)])
      (writeHeader {} b.width b.height) := by
    unfold writeHeader
    exact ((keeps_writeAll _ _).trans ((keeps_writeSingle _ 2).trans
      (keeps_foldl keeps_writeSingle _ _))).trans (Bits.keeps_write _ _ _)
  rw [← bytes_frameStart]
  refine List.IsPrefix.trans ?_ (prefix_finish _)
  refine Keeps.trans hheader ?_
  exact (keeps_writeTable _ _ _).trans <| (keeps_writeTable _ _ _).trans <|
    (keeps_writeTable _ _ _).trans <| (keeps_writeTable _ _ _).trans <|
    (keeps_writeSingle _ _).trans (keeps_foldl (Codes.keeps_write _) _ _)

/-- What the size is read from: four bytes behind the marks of the file and of its frame, whatever the
lengths between them are. -/
theorem sizeOfFile?_marks (m n : Nat) (mark a b c d : UInt8) (rest : List UInt8) :
    sizeOfFile? ([82, 73, 70, 70] ++ (fourBytes m).data.toList ++ [87, 69, 66, 80, 86, 80, 56, 76]
        ++ (fourBytes n).data.toList ++ [mark, a, b, c, d] ++ rest).toArray
      = some ((a.toNat + 256 * (b.toNat + 256 * (c.toNat + 256 * d.toNat))) % 0x4000 + 1,
          (a.toNat + 256 * (b.toNat + 256 * (c.toNat + 256 * d.toNat))) / 0x4000 % 0x4000 + 1) := by
  simp [sizeOfFile?, hasText, wordAt, fourBytes, List.range_succ, Nat.shiftRight_eq_div_pow]

/-- **The file of a bitmap tells its size.** -/
theorem sizeOfFile?_file {b : Bitmap} (hwidth : 1 ≤ b.width ∧ b.width ≤ 0x4000)
    (hheight : 1 ≤ b.height ∧ b.height ≤ 0x4000) :
    sizeOfFile? (file b).data = some (b.width, b.height) := by
  obtain ⟨rest, hrest⟩ := prefix_frame b
  let length := (frame b).size + (frame b).size % 2 + 12
  let padding : List UInt8 := if (frame b).size % 2 = 0 then [] else [0]
  have hfile : (file b).data = ([82, 73, 70, 70] ++ (fourBytes length).data.toList
      ++ [87, 69, 66, 80, 86, 80, 56, 76] ++ (fourBytes (frame b).size).data.toList
      ++ frameStart b.width b.height ++ (rest ++ padding)).toArray := by
    apply Array.toList_inj.mp
    have hriff : "RIFF".toUTF8.data.toList = [82, 73, 70, 70] := by decide
    have hkind : "WEBPVP8L".toUTF8.data.toList = [87, 69, 66, 80, 86, 80, 56, 76] := by decide
    have hpadding : (if (frame b).size % 2 = 0 then ⟨#[]⟩ else ⟨#[0]⟩ : ByteArray).data.toList
        = padding := by
      unfold padding
      split <;> rfl
    simp only [file, ByteArray.data_append, Array.toList_append, hriff, hkind, hpadding, ← hrest]
    simp only [List.append_assoc, length]
  rw [hfile, frameStart, sizeOfFile?_marks]
  simp only [UInt8.toNat_ofNat', sizeWord, Option.some.injEq, Prod.mk.injEq]
  constructor <;> omega

end SessionReplay.Lossless
