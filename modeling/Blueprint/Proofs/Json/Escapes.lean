import Blueprint.Json.Reader
import Blueprint.Json.Writer
import Mathlib.Logic.Basic

/-!
# Texts between quotes

A text is written between quotes, where some of its characters have an escape. Read back, every
escape is one piece, and the piece is the character that was escaped
(`Blueprint.Json.scanPieces?_escapeChar`):

| written | piece |
|---|---|
| a backslash and a mark of `Blueprint.Json.shortEscape?` | the character |
| a backslash, `u` and four digits | a code unit below U+0020 |
| any other character | the character |

Pieces are put together from the left, and a code unit may need the one after it. The units that
are written are no halves of surrogate pairs, so none of them does, and the text comes back as it
was (`Blueprint.Json.scanString?_escaped`).
-/

namespace Blueprint

namespace Json

variable {c mark : Char} {n : Nat} {rest : List Char}

/-! ### Pieces -/

/-- **A piece is a character**, whatever follows it. -/
def Piece.Denotes (piece : Piece) (c : Char) : Prop :=
  ∀ pieces, resolve? (piece :: pieces) = (resolve? pieces).map (c :: ·)

theorem Piece.denotes_char (c : Char) : (Piece.char c).Denotes c := fun _ => rfl

/-- A code unit below the surrogates is a character of its own. -/
theorem Piece.denotes_unit (h : n < 0xD800) : (Piece.unit n).Denotes (Char.ofNat n) := by
  have hhigh : isHighSurrogate n = false := by
    rw [isHighSurrogate, Bool.and_eq_false_iff]
    exact Or.inl (decide_eq_false (by omega))
  have hlow : isLowSurrogate n = false := by
    rw [isLowSurrogate, Bool.and_eq_false_iff]
    exact Or.inl (decide_eq_false (by omega))
  intro pieces
  -- A unit that follows would matter only to the first half of a pair.
  cases pieces with
  | nil => simp [resolve?, hhigh, hlow]
  | cons piece pieces =>
    cases piece with
    | char d => simp [resolve?, hhigh, hlow]
    | unit m => simp [resolve?, hhigh, hlow]

/-! ### One character -/

/-- A character without an escape is taken as it is. -/
theorem scanPieces?_plain (hquote : c ≠ '"') (hslash : c ≠ '\\') (hcontrol : ¬c.toNat < 0x20) :
    scanPieces? (c :: rest) = (scanPieces? rest).map (Prod.map (.char c :: ·) id) := by
  rw [scanPieces?, if_neg (not_or.mpr ⟨hcontrol, hslash⟩)]
  · cases scanPieces? rest <;> rfl
  · exact hquote
  · exact fun _ _ _ _ _ h => absurd h hslash
  · exact fun _ _ h => absurd h hslash

/-- An escape of one mark. -/
theorem scanPieces?_short (h : shortEscape? mark = some c) :
    scanPieces? ('\\' :: mark :: rest) =
      (scanPieces? rest).map (Prod.map (.char c :: ·) id) := by
  rw [scanPieces?, h]
  · cases scanPieces? rest <;> rfl
  · rintro _ _ _ _ _ rfl
    exact absurd h.symm (Option.some_ne_none c)

/-- An escape of four digits. -/
theorem scanPieces?_numbered {a b d e : Char} (h : readHex? [a, b, d, e] = some n) :
    scanPieces? ('\\' :: 'u' :: a :: b :: d :: e :: rest) =
      (scanPieces? rest).map (Prod.map (.unit n :: ·) id) := by
  rw [scanPieces?, h]
  cases scanPieces? rest <;> rfl

/-- The four digits of a control character are read back. -/
theorem readHex?_control : ∀ n < 0x20,
    readHex? ['0', '0', hexDigit (n / 16), hexDigit (n % 16)] = some n := by
  decide

/-- **An escape is one piece**, and the piece is the character that was escaped. -/
theorem scanPieces?_escapeChar (c : Char) : ∃ piece : Piece, piece.Denotes c ∧ ∀ rest,
    scanPieces? (escapeChar c ++ rest) =
      (scanPieces? rest).map (Prod.map (piece :: ·) id) := by
  have hmark : ∀ mark, shortEscape? mark = some c → escapeChar c = ['\\', mark] →
      ∃ piece : Piece, piece.Denotes c ∧ ∀ rest, scanPieces? (escapeChar c ++ rest) =
        (scanPieces? rest).map (Prod.map (piece :: ·) id) := by
    intro mark hshort hescape
    refine ⟨.char c, Piece.denotes_char c, fun rest => ?_⟩
    rw [hescape]
    exact scanPieces?_short hshort
  rcases eq_or_ne c '"' with rfl | hquote
  · exact hmark '"' rfl rfl
  rcases eq_or_ne c '\\' with rfl | hslash
  · exact hmark '\\' rfl rfl
  rcases eq_or_ne c '\x08' with rfl | hb
  · exact hmark 'b' rfl rfl
  rcases eq_or_ne c '\x0c' with rfl | hf
  · exact hmark 'f' rfl rfl
  rcases eq_or_ne c '\n' with rfl | hn
  · exact hmark 'n' rfl rfl
  rcases eq_or_ne c '\r' with rfl | hr
  · exact hmark 'r' rfl rfl
  rcases eq_or_ne c '\t' with rfl | ht
  · exact hmark 't' rfl rfl
  rw [escapeChar, if_neg hquote, if_neg hslash, if_neg hb, if_neg hf, if_neg hn, if_neg hr,
    if_neg ht]
  by_cases hcontrol : c.toNat < 0x20
  · rw [if_pos hcontrol]
    refine ⟨.unit c.toNat, ?_, fun rest => scanPieces?_numbered (readHex?_control _ hcontrol)⟩
    have hunit := Piece.denotes_unit (n := c.toNat) (by omega)
    rwa [Char.ofNat_toNat] at hunit
  · rw [if_neg hcontrol]
    exact ⟨.char c, Piece.denotes_char c, fun rest => scanPieces?_plain hquote hslash hcontrol⟩

/-! ### Whole texts -/

/-- The pieces of a text are its characters. -/
theorem scanPieces?_escaped (cs rest : List Char) :
    ∃ pieces, scanPieces? (cs.flatMap escapeChar ++ '"' :: rest) = some (pieces, rest) ∧
      resolve? pieces = some cs := by
  induction cs with
  | nil => exact ⟨[], by rw [List.flatMap_nil, List.nil_append, scanPieces?], rfl⟩
  | cons c cs ih =>
    obtain ⟨pieces, hpieces, hresolve⟩ := ih
    obtain ⟨piece, hdenotes, hscan⟩ := scanPieces?_escapeChar c
    refine ⟨piece :: pieces, ?_, ?_⟩
    · rw [List.flatMap_cons, List.append_assoc, hscan, hpieces]
      rfl
    · rw [hdenotes, hresolve]
      rfl

/-- **A text is read back from its quotes**, whatever characters it has. -/
theorem scanString?_escaped (s : String) (rest : List Char) :
    scanString? (s.toList.flatMap escapeChar ++ '"' :: rest) = some (some s, rest) := by
  obtain ⟨pieces, hpieces, hresolve⟩ := scanPieces?_escaped s.toList rest
  rw [scanString?, hpieces]
  change some ((resolve? pieces).map String.ofList, rest) = some (some s, rest)
  rw [hresolve, Option.map_some, String.ofList_toList]

end Json

end Blueprint
