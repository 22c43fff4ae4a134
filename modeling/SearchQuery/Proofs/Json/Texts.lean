import SearchQuery.Proofs.Json.Grammar
import SearchQuery.Proofs.Text.Scan

/-!
# Reading texts of JSON

The reader of texts finds what the grammar says (`tells_quotedText`), and all of it (`run_quotedText`).
-/

namespace SearchQuery.JsonText

open Text Text.Scan

variable {cs rest : List Char} {u : List Piece} {p : Piece} {n : Nat}

theorem run_hexNumber_of_hex (h : Hex cs n rest) : (hexNumber 4).run cs = .ok (n, rest) := by
  obtain ⟨ds, hlength, hvalue, rfl⟩ := h
  exact run_hexNumber_append hlength hvalue rest

/-! ## Escapes -/

/-- An escape is one of four digits, or a short one. -/
theorem run_escape_cons (c : Char) (cs : List Char) :
    escape.run (c :: cs) =
      (if c = 'u' then hexNumber 4 >>= joinHalves
        else orMalformed (shortEscape? c) >>= fun d => pure (.char d)).run cs := by
  rw [escape, run_bind (StateT.run_get _)]
  dsimp only
  rw [run_bind (StateT.run_set _ cs)]
  simp only [beq_iff_eq]

/-- What is not the first half of a character stands for itself. -/
theorem run_joinHalves_of_not (h : isHighHalf n = false) (cs : List Char) :
    (joinHalves n).run cs = .ok (.ofNat n, cs) := by
  rw [joinHalves, run_bind (StateT.run_get _), h]
  rfl

/-- A first half stays alone where no second number comes. -/
theorem run_joinHalves_of_ne (h : ∀ cs', cs ≠ '\\' :: 'u' :: cs') :
    (joinHalves n).run cs = .ok (.ofNat n, cs) := by
  have hprefix : ¬ ['\\', 'u'] <+: cs := by
    rintro ⟨cs', hcs⟩
    exact h cs' hcs.symm
  cases hhigh : isHighHalf n with
  | false => exact run_joinHalves_of_not hhigh cs
  | true =>
    rw [joinHalves, run_bind (StateT.run_get _), if_pos hhigh, run_bind (run_skip?_of_not hprefix)]
    rfl

/-- Behind a first half the second number is read, and left if it is no second half. -/
theorem run_joinHalves_escape (h : isHighHalf n = true) (cs : List Char) :
    (joinHalves n).run ('\\' :: 'u' :: cs) =
      (hexNumber 4 >>= fun m =>
        if isLowHalf m = true then pure (Piece.ofNat (0x10000 + (n - 0xd800) * 0x400 + (m - 0xdc00)))
        else do
          set ('\\' :: 'u' :: cs)
          return Piece.ofNat n).run cs := by
  have hskip : (skip? ['\\', 'u']).run ('\\' :: 'u' :: cs) = .ok (true, cs) :=
    run_skip?_append ['\\', 'u'] cs
  rw [joinHalves, run_bind (StateT.run_get _), if_pos h, run_bind hskip]
  rfl

/-- Halves of a pair are joined as the grammar says. -/
theorem tells_joinHalves (hhex : Hex cs n rest) :
    Tells ((joinHalves n).run rest) (Escapes ('u' :: cs)) fun _ => False := by
  cases hhigh : isHighHalf n with
  | false =>
    rw [run_joinHalves_of_not hhigh]
    exact .single hhex fun h => absurd h (by simp [hhigh])
  | true =>
    by_cases hnext : ∃ cs', rest = '\\' :: 'u' :: cs'
    · obtain ⟨cs', rfl⟩ := hnext
      rw [run_joinHalves_escape hhigh]
      refine (tells_hexNumber 4 cs').then (fun m rest' hsecond => ?_)
      split
      next hlow => exact .pair hhex hhigh hsecond hlow
      next hlow =>
        refine .single hhex ?_
        rintro - _ ⟨⟩
        exact ⟨m, rest', hsecond, by simpa using hlow⟩
    · rw [not_exists] at hnext
      rw [run_joinHalves_of_ne hnext]
      exact .single hhex fun _ cs' h => absurd h (hnext cs')

/-- An escape is read as the grammar says. -/
theorem tells_escape (cs : List Char) : Tells (escape.run cs) (Escapes cs) fun _ => False := by
  cases cs with
  | nil => exact tells_malformed
  | cons c cs =>
    rw [run_escape_cons]
    split
    next hu =>
      subst hu
      exact (tells_hexNumber 4 cs).then (fun _ _ hhex => tells_joinHalves hhex)
    next =>
    refine (tells_orMalformed _ cs).then ?_
    rintro d rest ⟨h, rfl⟩
    exact .short h

/-- What the grammar calls an escape is read. -/
theorem run_escape (h : Escapes cs c rest) : escape.run cs = .ok (c, rest) := by
  cases h with
  | short h =>
    rw [run_escape_cons, if_neg (by rintro rfl; cases h), run_bind (run_orMalformed h rest)]
    rfl
  | @single cs _ n hex alone =>
    rw [run_escape_cons, if_pos rfl, run_bind (run_hexNumber_of_hex hex)]
    cases hhigh : isHighHalf n with
    | false => exact run_joinHalves_of_not hhigh rest
    | true =>
      by_cases hnext : ∃ cs', rest = '\\' :: 'u' :: cs'
      · obtain ⟨cs', rfl⟩ := hnext
        obtain ⟨m, rest', hsecond, hlow⟩ := alone hhigh cs' rfl
        rw [run_joinHalves_escape hhigh, run_bind (run_hexNumber_of_hex hsecond), hlow]
        rfl
      · rw [not_exists] at hnext
        exact run_joinHalves_of_ne hnext
  | pair first high second low =>
    rw [run_escape_cons, if_pos rfl, run_bind (run_hexNumber_of_hex first), run_joinHalves_escape high,
      run_bind (run_hexNumber_of_hex second), if_pos low]
    rfl

/-! ## Texts -/

/-- A text goes on up to its closing quote. -/
theorem run_textBody_cons (n : Nat) (c : Char) (cs : List Char) :
    (textBody (n + 1)).run (c :: cs) =
      (if c = '"' then pure []
      else if c = '\\' then do
        let p ← escape
        return p :: (← textBody n)
      else if c.toNat < 32 then malformed
      else return .char c :: (← textBody n)).run cs := by
  rw [textBody, run_bind (StateT.run_get _)]
  dsimp only
  rw [run_bind (StateT.run_set _ cs)]
  simp only [beq_iff_eq]

/-- The characters of a text are read as the grammar says. -/
theorem tells_textBody (n : Nat) (cs : List Char) :
    Tells ((textBody n).run cs) (Spells cs) fun _ => False := by
  induction n generalizing cs with
  | zero => exact tells_malformed
  | succ n ih =>
    cases cs with
    | nil => exact tells_malformed
    | cons c cs =>
      rw [run_textBody_cons]
      split
      next hquote =>
        subst hquote
        exact .close cs
      next hquote =>
        split
        next hbackslash =>
          subst hbackslash
          refine (tells_escape cs).then (fun p mid hescape => ?_)
          exact (ih mid).then (fun u rest htail => .escaped hescape htail)
        next hbackslash =>
          split
          next => exact tells_malformed
          next hprinted =>
            exact (ih cs).then (fun u rest htail => .plain hquote hbackslash (by omega) htail)

/-- What is spelled is read, with fuel for all characters. -/
theorem run_textBody (h : Spells cs u rest) :
    ∀ {n : Nat}, cs.length < n → (textBody n).run cs = .ok (u, rest) := by
  induction h with
  | close rest =>
    rintro (_ | n) hn
    · omega
    · rw [run_textBody_cons, if_pos rfl]
      rfl
  | plain quote backslash printed tail ih =>
    rintro (_ | n) hn
    · omega
    · rw [run_textBody_cons, if_neg quote, if_neg backslash, if_neg (by omega),
        run_bind (ih (Nat.lt_of_succ_lt_succ hn))]
      rfl
  | escaped head tail ih =>
    rintro (_ | n) hn
    · omega
    · have hlength := head.before.length_lt
      rw [run_textBody_cons, if_neg (by decide), if_pos rfl, run_bind (run_escape head),
        run_bind (ih (by simp only [List.length_cons] at hn; omega))]
      rfl

/-- A text in quotes is read as the grammar says. -/
theorem tells_quotedText (cs : List Char) :
    Tells (quotedText.run cs) (fun u rest => ∃ cs', cs = '"' :: cs' ∧ Spells cs' u rest)
      fun _ => False := by
  rw [quotedText]
  refine (tells_skip_single '"' cs).then fun _ cs' hcs => ?_
  rw [run_bind (StateT.run_get _)]
  exact (tells_textBody _ cs').mono fun u rest h => ⟨cs', hcs, h⟩

/-- A quoted text is read as it is spelled. -/
theorem run_quotedText (h : Spells cs u rest) : quotedText.run ('"' :: cs) = .ok (u, rest) := by
  rw [quotedText, run_bind (run_skip_cons '"' cs), run_bind (StateT.run_get _)]
  exact run_textBody h (Nat.lt_succ_self _)

end SearchQuery.JsonText
