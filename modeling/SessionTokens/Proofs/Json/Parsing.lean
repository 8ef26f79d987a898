import SessionTokens.Proofs.Json.Scanning

/-! # Parsing takes exactly the texts of the grammar

Both directions go by induction on the fuel. Reading a value costs at most two units for each of its
bytes, which is why the fuel that parsing starts with is never the reason for a refusal.
-/

namespace SessionTokens.Json

open Text Grammar

/-! ## What is parsed is a text of the grammar -/

theorem scanWord_sound {word bytes rest : List UInt8} {value found : Json}
    (h : scanWord word value bytes = some (found, rest)) :
    found = value ∧ bytes = word ++ rest := by
  unfold scanWord at h
  split at h
  next hprefix =>
    cases h
    obtain ⟨tail, rfl⟩ := List.isPrefixOf_iff_prefix.mp hprefix
    exact ⟨rfl, by rw [List.drop_left]⟩
  next => cases h

theorem scanScalar_sound {bytes rest : List UInt8} {value : Json}
    (h : scanScalar bytes = some (value, rest)) :
    ∃ text, Value value text ∧ bytes = text ++ rest := by
  unfold scanScalar at h
  split at h
  next tail =>
    obtain ⟨⟨pieces, after⟩, hscan, heq⟩ := Option.map_eq_some_iff.mp h
    cases heq
    obtain ⟨text, htext, rfl⟩ := scanPieces_sound hscan
    exact ⟨_, .string htext, by simp⟩
  next tail =>
    obtain ⟨⟨n, after⟩, hscan, heq⟩ := Option.map_eq_some_iff.mp h
    cases heq
    obtain ⟨hnegative, text, htext, rfl⟩ := scanNumber_sound hscan
    exact ⟨_, .negative hnegative htext, rfl⟩
  next =>
    obtain ⟨rfl, rfl⟩ := scanWord_sound h
    exact ⟨_, .null, rfl⟩
  next =>
    obtain ⟨rfl, rfl⟩ := scanWord_sound h
    exact ⟨_, .true, rfl⟩
  next =>
    obtain ⟨rfl, rfl⟩ := scanWord_sound h
    exact ⟨_, .false, rfl⟩
  next =>
    obtain ⟨⟨n, after⟩, hscan, heq⟩ := Option.map_eq_some_iff.mp h
    cases heq
    obtain ⟨hnegative, text, htext, rfl⟩ := scanNumber_sound hscan
    exact ⟨_, .number hnegative htext, rfl⟩

/-- Blanks in front of the items belong to the first of them. -/
theorem Grammar.Items.pad {items : List Json} {text blanks : List UInt8} (h : Items items text)
    (hblanks : Blanks blanks) : Items items (blanks ++ text) := by
  cases h with
  | last hbefore hvalue hafter =>
      rw [← List.append_assoc]
      exact .last (hblanks.append hbefore) hvalue hafter
  | cons hbefore hvalue hafter hrest =>
      rw [← List.append_assoc]
      exact .cons (hblanks.append hbefore) hvalue hafter hrest

theorem Grammar.Name.pad {name : JsonText} {text blanks : List UInt8} (h : Name name text)
    (hblanks : Blanks blanks) : Name name (blanks ++ text) := by
  cases h with
  | mk hbefore hpieces hafter =>
      rw [← List.append_assoc]
      exact .mk (hblanks.append hbefore) hpieces hafter

theorem Grammar.Members.pad {members : List (JsonText × Json)} {text blanks : List UInt8}
    (h : Members members text) (hblanks : Blanks blanks) : Members members (blanks ++ text) := by
  cases h with
  | last hname hbefore hvalue hafter =>
      rw [← List.append_assoc]
      exact .last (hname.pad hblanks) hbefore hvalue hafter
  | cons hname hbefore hvalue hafter hrest =>
      rw [← List.append_assoc]
      exact .cons (hname.pad hblanks) hbefore hvalue hafter hrest

/-- What is scanned with some fuel is what the grammar has. -/
structure SoundWith (fuel : Nat) : Prop where
  value {bytes rest : List UInt8} {value : Json} :
    scanValue fuel bytes = some (value, rest) →
      ∃ before text, Blanks before ∧ Value value text ∧ bytes = before ++ (text ++ rest)
  items {bytes rest : List UInt8} {items : List Json} :
    scanItems fuel bytes = some (items, rest) →
      ∃ text, Items items text ∧ bytes = text ++ 0x5D :: rest
  members {bytes rest : List UInt8} {members : List (JsonText × Json)} :
    scanMembers fuel bytes = some (members, rest) →
      ∃ text, Members members text ∧ bytes = text ++ 0x7D :: rest

theorem SoundWith.scanValue_succ {fuel : Nat} (ih : SoundWith fuel) {bytes rest : List UInt8}
    {value : Json} (h : scanValue (fuel + 1) bytes = some (value, rest)) :
    ∃ before text, Blanks before ∧ Value value text ∧ bytes = before ++ (text ++ rest) := by
  obtain ⟨before, hbefore, heq⟩ := exists_blanks bytes
  suffices hrest : ∃ text, Value value text ∧ skipBlanks bytes = text ++ rest by
    obtain ⟨text, htext, hskip⟩ := hrest
    exact ⟨before, text, hbefore, htext, by rw [← hskip, ← heq]⟩
  unfold scanValue at h
  split at h
  next tail hopen =>
    obtain ⟨blanks, hblanks, htail⟩ := exists_blanks tail
    rw [hopen, htail]
    split at h
    next after hclose =>
      cases h
      exact ⟨_, .emptyArray hblanks, by rw [hclose]; simp⟩
    next hclose =>
      obtain ⟨⟨items, after⟩, hscan, hpair⟩ := Option.map_eq_some_iff.mp h
      cases hpair
      obtain ⟨text, htext, hitems⟩ := ih.items hscan
      exact ⟨_, .array (htext.pad hblanks), by rw [hitems]; simp⟩
  next tail hopen =>
    obtain ⟨blanks, hblanks, htail⟩ := exists_blanks tail
    rw [hopen, htail]
    split at h
    next after hclose =>
      cases h
      exact ⟨_, .emptyObject hblanks, by rw [hclose]; simp⟩
    next hclose =>
      obtain ⟨⟨members, after⟩, hscan, hpair⟩ := Option.map_eq_some_iff.mp h
      cases hpair
      obtain ⟨text, htext, hmembers⟩ := ih.members hscan
      exact ⟨_, .object (htext.pad hblanks), by rw [hmembers]; simp⟩
  next => exact scanScalar_sound h

theorem SoundWith.scanItems_succ {fuel : Nat} (ih : SoundWith fuel) {bytes rest : List UInt8}
    {items : List Json} (h : scanItems (fuel + 1) bytes = some (items, rest)) :
    ∃ text, Items items text ∧ bytes = text ++ 0x5D :: rest := by
  unfold scanItems at h
  split at h
  next => cases h
  next item tail hvalue =>
    obtain ⟨before, text, hbefore, htext, rfl⟩ := ih.value hvalue
    obtain ⟨after, hafter, htail⟩ := exists_blanks tail
    split at h
    next close hclose =>
      cases h
      exact ⟨_, .last hbefore htext hafter, by rw [htail, hclose]; simp⟩
    next more hcomma =>
      obtain ⟨⟨others, close⟩, hscan, hpair⟩ := Option.map_eq_some_iff.mp h
      cases hpair
      obtain ⟨moreText, hmoreText, rfl⟩ := ih.items hscan
      exact ⟨_, .cons hbefore htext hafter hmoreText, by rw [htail, hcomma]; simp⟩
    next => cases h

theorem SoundWith.scanMembers_succ {fuel : Nat} (ih : SoundWith fuel) {bytes rest : List UInt8}
    {members : List (JsonText × Json)} (h : scanMembers (fuel + 1) bytes = some (members, rest)) :
    ∃ text, Members members text ∧ bytes = text ++ 0x7D :: rest := by
  unfold scanMembers at h
  split at h
  next => cases h
  next name afterName hname =>
    obtain ⟨head, hhead, rfl⟩ := scanName_sound hname
    split at h
    next => cases h
    next value tail hvalue =>
      obtain ⟨before, text, hbefore, htext, rfl⟩ := ih.value hvalue
      obtain ⟨after, hafter, htail⟩ := exists_blanks tail
      split at h
      next close hclose =>
        cases h
        exact ⟨_, .last hhead hbefore htext hafter, by rw [htail, hclose]; simp⟩
      next more hcomma =>
        obtain ⟨⟨others, close⟩, hscan, hpair⟩ := Option.map_eq_some_iff.mp h
        cases hpair
        obtain ⟨moreText, hmoreText, rfl⟩ := ih.members hscan
        exact ⟨_, .cons hhead hbefore htext hafter hmoreText, by rw [htail, hcomma]; simp⟩
      next => cases h

theorem soundWith (fuel : Nat) : SoundWith fuel := by
  induction fuel with
  | zero => exact ⟨(nomatch ·), (nomatch ·), (nomatch ·)⟩
  | succ fuel ih => exact ⟨ih.scanValue_succ, ih.scanItems_succ, ih.scanMembers_succ⟩

/-! ## A text of the grammar is parsed -/

theorem isBlankByte_iff {b : UInt8} :
    isBlankByte b = true ↔ b = 0x20 ∨ b = 0x09 ∨ b = 0x0A ∨ b = 0x0D := by
  simp [isBlankByte, or_assoc]

theorem EndsNumber.cons {b : UInt8} {rest : List UInt8}
    (h : decimal? b = none ∧ b ≠ 0x2E ∧ b ≠ 0x65 ∧ b ≠ 0x45) : EndsNumber (b :: rest) := by
  intro b hb
  cases hb
  exact h

/-- Neither a blank nor what ends a number goes on with it. -/
theorem EndsNumber.blanks {blanks rest : List UInt8} (hblanks : Blanks blanks)
    (hrest : EndsNumber rest) : EndsNumber (blanks ++ rest) := by
  cases blanks with
  | nil => exact hrest
  | cons b blanks =>
      apply EndsNumber.cons
      rcases isBlankByte_iff.mp (hblanks b List.mem_cons_self) with rfl | rfl | rfl | rfl <;> decide

/-- The first byte of a value: it is no blank and closes nothing. -/
def BeginsValue (bytes : List UInt8) : Prop :=
  ∃ b rest, bytes = b :: rest ∧ isBlankByte b = false ∧ b ≠ 0x5D ∧ b ≠ 0x7D

theorem decimal?_ne {b c : UInt8} {digit : Nat} (h : decimal? b = some digit)
    (hc : decimal? c = none) : b ≠ c := by
  rintro rfl
  rw [hc] at h
  cases h

theorem not_blank_of_decimal {b : UInt8} {digit : Nat} (h : decimal? b = some digit) :
    isBlankByte b = false := by
  rw [Bool.eq_false_iff]
  intro hblank
  rcases isBlankByte_iff.mp hblank with rfl | rfl | rfl | rfl <;> exact nomatch h

theorem Grammar.Whole.exists_digit {n : Nat} {text : List UInt8} (h : Whole n text) :
    ∃ b digit rest, text = b :: rest ∧ decimal? b = some digit := by
  cases h with
  | zero => exact ⟨_, _, _, rfl, rfl⟩
  | digits hdigits _ =>
      cases hdigits with
      | cons hdigit _ => exact ⟨_, _, _, rfl, hdigit⟩

theorem Grammar.Magnitude.exists_digit {n : JsonNumber} {text : List UInt8} (h : Magnitude n text) :
    ∃ b digit rest, text = b :: rest ∧ decimal? b = some digit := by
  cases h with
  | mk hwhole _ _ =>
      obtain ⟨b, digit, rest, rfl, hdigit⟩ := hwhole.exists_digit
      exact ⟨b, digit, _, rfl, hdigit⟩

theorem Grammar.Value.begins {value : Json} {text : List UInt8} (h : Value value text) :
    BeginsValue text := by
  cases h with
  | number _ hmagnitude =>
      obtain ⟨b, digit, rest, rfl, hdigit⟩ := hmagnitude.exists_digit
      exact ⟨b, rest, rfl, not_blank_of_decimal hdigit, decimal?_ne hdigit rfl,
        decimal?_ne hdigit rfl⟩
  | _ => exact ⟨_, _, rfl, rfl, by decide, by decide⟩

theorem Grammar.Value.length_pos {value : Json} {text : List UInt8} (h : Value value text) :
    0 < text.length := by
  obtain ⟨b, rest, rfl, -⟩ := h.begins
  exact Nat.succ_pos _

theorem BeginsValue.skipBlanks {text : List UInt8} (h : BeginsValue text) (rest : List UInt8) :
    skipBlanks (text ++ rest) = text ++ rest := by
  obtain ⟨b, tail, rfl, hblank, -⟩ := h
  exact skipBlanks_cons hblank (tail ++ rest)

/-- Without the blanks in front of it a text of items is still one. -/
theorem Grammar.Items.trim {items : List Json} {text : List UInt8} (h : Items items text) :
    ∃ trimmed, Items items trimmed ∧ trimmed.length ≤ text.length ∧ BeginsValue trimmed ∧
      ∀ rest, skipBlanks (text ++ rest) = trimmed ++ rest := by
  cases h with
  | @last item before bytes after hbefore hvalue hafter =>
      obtain ⟨b, tail, rfl, hfacts⟩ := hvalue.begins
      refine ⟨_, .last .nil hvalue hafter, by simp, ⟨b, _, rfl, hfacts⟩, ?_⟩
      intro rest
      rw [List.append_assoc, skipBlanks_append hbefore]
      exact skipBlanks_cons hfacts.1 _
  | @cons item others before bytes after more hbefore hvalue hafter hmore =>
      obtain ⟨b, tail, rfl, hfacts⟩ := hvalue.begins
      refine ⟨_, .cons .nil hvalue hafter hmore, by simp, ⟨b, _, rfl, hfacts⟩, ?_⟩
      intro rest
      rw [List.append_assoc, skipBlanks_append hbefore]
      exact skipBlanks_cons hfacts.1 _

theorem Grammar.Name.trim {name : JsonText} {text : List UInt8} (h : Name name text) :
    ∃ tail, Name name (0x22 :: tail) ∧ tail.length < text.length ∧
      ∀ rest, skipBlanks (text ++ rest) = 0x22 :: (tail ++ rest) := by
  cases h with
  | mk hbefore hpieces hafter =>
      refine ⟨_, .mk .nil hpieces hafter, by simp; omega, ?_⟩
      intro rest
      rw [List.append_assoc, skipBlanks_append hbefore]
      exact skipBlanks_cons rfl _

theorem Grammar.Members.trim {members : List (JsonText × Json)} {text : List UInt8}
    (h : Members members text) :
    ∃ trimmed, Members members trimmed ∧ trimmed.length ≤ text.length ∧ BeginsValue trimmed ∧
      ∀ rest, skipBlanks (text ++ rest) = trimmed ++ rest := by
  cases h with
  | @last name value head before bytes after hname hbefore hvalue hafter =>
      obtain ⟨tail, htail, hlength, hskip⟩ := hname.trim
      refine ⟨_, .last htail hbefore hvalue hafter, by simp; omega,
        ⟨0x22, _, rfl, rfl, by decide, by decide⟩, ?_⟩
      intro rest
      rw [List.append_assoc, hskip]
      simp
  | @cons name value others head before bytes after more hname hbefore hvalue hafter hmore =>
      obtain ⟨tail, htail, hlength, hskip⟩ := hname.trim
      refine ⟨_, .cons htail hbefore hvalue hafter hmore, by simp; omega,
        ⟨0x22, _, rfl, rfl, by decide, by decide⟩, ?_⟩
      intro rest
      rw [List.append_assoc, hskip]
      simp

/-! Each lemma below says what the scanner does once the first byte of a value is known. -/

theorem scanValue_scalar {fuel : Nat} {before : List UInt8} (hbefore : Blanks before) {b : UInt8}
    (hblank : isBlankByte b = false) (hbracket : b ≠ 0x5B) (hbrace : b ≠ 0x7B)
    (rest : List UInt8) :
    scanValue (fuel + 1) (before ++ b :: rest) = scanScalar (b :: rest) := by
  unfold scanValue
  rw [skipBlanks_append hbefore, skipBlanks_cons hblank]
  split
  next heq => cases heq; exact absurd rfl hbracket
  next heq => cases heq; exact absurd rfl hbrace
  next => rfl

theorem scanScalar_digit {b : UInt8} {digit : Nat} (h : decimal? b = some digit)
    (rest : List UInt8) :
    scanScalar (b :: rest) =
      (scanNumber false (b :: rest)).map fun (n, rest) => (.number n, rest) := by
  unfold scanScalar
  split
  case h_6 => rfl
  all_goals
    next heq => cases heq; exact nomatch h

theorem scanValue_bracket {fuel : Nat} {before : List UInt8} (hbefore : Blanks before)
    {text : List UInt8} (htext : BeginsValue text) (rest : List UInt8) {inner : List UInt8}
    (hinner : skipBlanks inner = text ++ rest) :
    scanValue (fuel + 1) (before ++ 0x5B :: inner) =
      (scanItems fuel (text ++ rest)).map fun (items, rest) => (.array items, rest) := by
  obtain ⟨b, tail, rfl, -, hclose, -⟩ := htext
  unfold scanValue
  rw [skipBlanks_append hbefore, skipBlanks_cons rfl]
  simp only [hinner, List.cons_append]
  split
  next heq => cases heq; exact absurd rfl hclose
  next => rfl

theorem scanValue_brace {fuel : Nat} {before : List UInt8} (hbefore : Blanks before)
    {text : List UInt8} (htext : BeginsValue text) (rest : List UInt8) {inner : List UInt8}
    (hinner : skipBlanks inner = text ++ rest) :
    scanValue (fuel + 1) (before ++ 0x7B :: inner) =
      (scanMembers fuel (text ++ rest)).map fun (members, rest) => (.object members, rest) := by
  obtain ⟨b, tail, rfl, -, -, hclose⟩ := htext
  unfold scanValue
  rw [skipBlanks_append hbefore, skipBlanks_cons rfl]
  simp only [hinner, List.cons_append]
  split
  next heq => cases heq; exact absurd rfl hclose
  next => rfl

/-- With some fuel all that the grammar has within the bounds is scanned. -/
structure CompleteWith (fuel : Nat) : Prop where
  value {value : Json} {before text rest : List UInt8} :
    Value value text → 2 * text.length ≤ fuel → Blanks before → EndsNumber rest →
      scanValue fuel (before ++ (text ++ rest)) = some (value, rest)
  items {items : List Json} {text : List UInt8} :
    Items items text → 2 * text.length + 1 ≤ fuel → ∀ rest,
      scanItems fuel (text ++ 0x5D :: rest) = some (items, rest)
  members {members : List (JsonText × Json)} {text : List UInt8} :
    Members members text → 2 * text.length + 1 ≤ fuel → ∀ rest,
      scanMembers fuel (text ++ 0x7D :: rest) = some (members, rest)

theorem CompleteWith.scanValue_succ {fuel : Nat} (ih : CompleteWith fuel) {value : Json}
    {before text rest : List UInt8} (h : Value value text) (hfuel : 2 * text.length ≤ fuel + 1)
    (hbefore : Blanks before) (hrest : EndsNumber rest) :
    scanValue (fuel + 1) (before ++ (text ++ rest)) = some (value, rest) := by
  cases h with
  | null => exact scanValue_scalar hbefore rfl (by decide) (by decide) _
  | true => exact scanValue_scalar hbefore rfl (by decide) (by decide) _
  | false => exact scanValue_scalar hbefore rfl (by decide) (by decide) _
  | @number n text hpositive hmagnitude =>
      have hscan := scanNumber_append hmagnitude hrest
      obtain ⟨b, digit, tail, rfl, hdigit⟩ := hmagnitude.exists_digit
      rw [hpositive] at hscan
      rw [List.cons_append] at hscan ⊢
      rw [scanValue_scalar hbefore (not_blank_of_decimal hdigit) (decimal?_ne hdigit rfl)
        (decimal?_ne hdigit rfl), scanScalar_digit hdigit, hscan]
      rfl
  | @negative n text hnegative hmagnitude =>
      have hscan := scanNumber_append hmagnitude hrest
      rw [hnegative] at hscan
      rw [List.cons_append, scanValue_scalar hbefore rfl (by decide) (by decide), scanScalar, hscan]
      rfl
  | @string pieces text hpieces =>
      have hscan := scanPieces_append hpieces rest
      rw [List.cons_append, scanValue_scalar hbefore rfl (by decide) (by decide), scanScalar,
        List.append_assoc, List.singleton_append, hscan]
      rfl
  | @emptyArray blanks hblanks =>
      unfold scanValue
      simp only [List.cons_append, List.append_assoc, List.nil_append]
      rw [skipBlanks_append hbefore, skipBlanks_cons rfl]
      simp only
      rw [skipBlanks_append hblanks, skipBlanks_cons rfl]
      rfl
  | @array items text hitems =>
      obtain ⟨trimmed, htrimmed, hlength, hbegins, hskip⟩ := hitems.trim
      simp only [List.length_cons, List.length_append, List.length_nil] at hfuel
      simp only [List.cons_append, List.append_assoc, List.nil_append]
      rw [scanValue_bracket hbefore hbegins _ (hskip _), ih.items htrimmed (by omega)]
      rfl
  | @emptyObject blanks hblanks =>
      unfold scanValue
      simp only [List.cons_append, List.append_assoc, List.nil_append]
      rw [skipBlanks_append hbefore, skipBlanks_cons rfl]
      simp only
      rw [skipBlanks_append hblanks, skipBlanks_cons rfl]
      rfl
  | @object members text hmembers =>
      obtain ⟨trimmed, htrimmed, hlength, hbegins, hskip⟩ := hmembers.trim
      simp only [List.length_cons, List.length_append, List.length_nil] at hfuel
      simp only [List.cons_append, List.append_assoc, List.nil_append]
      rw [scanValue_brace hbefore hbegins _ (hskip _), ih.members htrimmed (by omega)]
      rfl

theorem CompleteWith.scanItems_succ {fuel : Nat} (ih : CompleteWith fuel) {items : List Json}
    {text : List UInt8} (h : Items items text) (hfuel : 2 * text.length + 1 ≤ fuel + 1)
    (rest : List UInt8) : scanItems (fuel + 1) (text ++ 0x5D :: rest) = some (items, rest) := by
  cases h with
  | @last item before text after hbefore hvalue hafter =>
      simp only [List.length_append] at hfuel
      have hends : EndsNumber (after ++ 0x5D :: rest) := .blanks hafter (.cons (by decide))
      rw [scanItems, List.append_assoc, List.append_assoc,
        ih.value hvalue (by omega) hbefore hends]
      simp only
      rw [skipBlanks_append hafter, skipBlanks_cons rfl]
      rfl
  | @cons item others before text after more hbefore hvalue hafter hmore =>
      have hpos := hvalue.length_pos
      simp only [List.length_append, List.length_cons] at hfuel
      have hends : EndsNumber (after ++ 0x2C :: (more ++ 0x5D :: rest)) :=
        .blanks hafter (.cons (by decide))
      rw [scanItems]
      simp only [List.append_assoc, List.cons_append]
      rw [ih.value hvalue (by omega) hbefore hends]
      simp only
      rw [skipBlanks_append hafter, skipBlanks_cons rfl]
      simp only
      rw [ih.items hmore (by omega)]
      rfl

theorem CompleteWith.scanMembers_succ {fuel : Nat} (ih : CompleteWith fuel)
    {members : List (JsonText × Json)} {text : List UInt8} (h : Members members text)
    (hfuel : 2 * text.length + 1 ≤ fuel + 1) (rest : List UInt8) :
    scanMembers (fuel + 1) (text ++ 0x7D :: rest) = some (members, rest) := by
  cases h with
  | @last name value head before text after hname hbefore hvalue hafter =>
      simp only [List.length_append] at hfuel
      have hends : EndsNumber (after ++ 0x7D :: rest) := .blanks hafter (.cons (by decide))
      rw [scanMembers]
      simp only [List.append_assoc]
      rw [scanName_append hname]
      simp only
      rw [ih.value hvalue (by omega) hbefore hends]
      simp only
      rw [skipBlanks_append hafter, skipBlanks_cons rfl]
      rfl
  | @cons name value others head before text after more hname hbefore hvalue hafter hmore =>
      have hpos := hvalue.length_pos
      simp only [List.length_append, List.length_cons] at hfuel
      have hends : EndsNumber (after ++ 0x2C :: (more ++ 0x7D :: rest)) :=
        .blanks hafter (.cons (by decide))
      rw [scanMembers]
      simp only [List.append_assoc, List.cons_append]
      rw [scanName_append hname]
      simp only
      rw [ih.value hvalue (by omega) hbefore hends]
      simp only
      rw [skipBlanks_append hafter, skipBlanks_cons rfl]
      simp only
      rw [ih.members hmore (by omega)]
      rfl

theorem completeWith (fuel : Nat) : CompleteWith fuel := by
  induction fuel with
  | zero =>
      refine ⟨?_, ?_, ?_⟩
      · -- without fuel there is no room for a value, which has a byte at least
        intro value before text rest hvalue hfuel
        have hpos := hvalue.length_pos
        omega
      · intro items text _ hfuel
        omega
      · intro members text _ hfuel
        omega
  | succ fuel ih => exact ⟨ih.scanValue_succ, ih.scanItems_succ, ih.scanMembers_succ⟩

/-- Parsing takes a text for a value exactly when the grammar has the text for the value. -/
theorem parse_eq_some_iff {bytes : List UInt8} {value : Json} :
    parse bytes = some value ↔ Spells value bytes := by
  constructor
  · intro h
    unfold parse at h
    split at h
    next => cases h
    next found rest hscan =>
      split at h
      next hempty =>
        cases h
        obtain ⟨before, text, hbefore, htext, rfl⟩ := (soundWith _).value hscan
        obtain ⟨after, hafter, hrest⟩ := exists_blanks rest
        rw [List.isEmpty_iff.mp hempty, List.append_nil] at hrest
        exact .mk hbefore htext (hrest ▸ hafter)
      next => cases h
  · intro h
    cases h with
    | @mk before text after hbefore hvalue hafter =>
        have hnil : EndsNumber [] := fun _ hb => nomatch hb
        have hends : EndsNumber after := by simpa using EndsNumber.blanks hafter hnil
        have hscan := (completeWith (2 * (before ++ (text ++ after)).length + 2)).value hvalue
          (by simp only [List.length_append]; omega) hbefore hends
        rw [parse, hscan]
        simp [skipBlanks_of_blanks hafter]

end SessionTokens.Json
