import SessionTokens.Proofs.Jwt.RoundTrip
import SessionTokens.Proofs.Text.Utf8Decoding

/-! # Altered tokens

No part of an accepted token holds a mark, so its two marks are the only ones. Whatever replaces the
signature of a token is therefore the signature that is checked, and only the one that was there
passes. Whoever keeps the signature and changes what it signs has to find another message with the
same digest.
-/

namespace SessionTokens.Jwt

open Json Text Time

/-- Two different messages have the same digest under a secret. -/
structure Collide (secret : TokenSecret) (message other : List Char) : Prop where
  bytes_ne : Utf8.encode message ≠ Utf8.encode other
  digest_eq : Crypto.Hmac.sha512 secret.bytes (Utf8.encode message) =
    Crypto.Hmac.sha512 secret.bytes (Utf8.encode other)

/-- Different messages with one signature collide. -/
theorem collide_of_signature_eq {secret : TokenSecret} {message other : List Char}
    (hne : message ≠ other) (h : signature secret message = signature secret other) :
    Collide secret message other :=
  ⟨fun heq => hne (Utf8.encode_injective heq), Base64Url.encode_injective h⟩

/-! ## The parts of an accepted token -/

section Parts

variable {text : List Char} {secret : TokenSecret} {claims : Claims}
  {head body given : List Char}

theorem IsSigned.head_unmarked (h : IsSigned text secret claims head body given) :
    '.' ∉ head := by
  obtain ⟨bytes, _, rfl, -⟩ := h.header
  exact Base64Url.dot_not_mem_encode bytes

theorem IsSigned.splitFirst_eq (h : IsSigned text secret claims head body given) :
    splitFirst '.' text = (head, some (body ++ '.' :: given)) := by
  rw [h.text_eq, List.append_assoc, List.cons_append, splitFirst_append h.head_unmarked]

theorem IsSigned.splitLast_eq (h : IsSigned text secret claims head body given) :
    splitLast '.' text = some (head ++ '.' :: body, given) := by
  rw [h.text_eq, splitLast_append h.signature_unmarked]

/-- What stands behind the first mark of an accepted token is its second part, another mark and the
signature. -/
theorem IsSigned.rest_eq (h : IsSigned text secret claims head body given)
    {first rest : List Char} (hfirst : '.' ∉ first) (heq : text = first ++ '.' :: rest) :
    head = first ∧ body ++ '.' :: given = rest := by
  have hsplit := h.splitFirst_eq
  rw [heq, splitFirst_append hfirst, Prod.mk.injEq, Option.some.injEq] at hsplit
  exact ⟨hsplit.1.symm, hsplit.2.symm⟩

end Parts

/-- A text is accepted or it is refused with the one error that extraction failed. -/
theorem extract_cases (token : AccessToken) (secret : TokenSecret) :
    (∃ claims, extract token secret = .ok claims) ∨
      extract token secret = .error .claimsExtraction := by
  unfold extract
  split
  next claims _ => exact .inl ⟨claims, rfl⟩
  next => exact .inr rfl

theorem extract_eq_error_of_not_signed {token : AccessToken} {secret : TokenSecret}
    (h : ∀ claims head body given, ¬ IsSigned token.text.toList secret claims head body given) :
    extract token secret = .error .claimsExtraction := by
  refine (extract_cases token secret).resolve_left ?_
  rintro ⟨claims, hextract⟩
  obtain ⟨head, body, given, hsigned⟩ := extract?_eq_some_iff.mp (extract_eq_ok.mp hextract)
  exact h claims head body given hsigned

/-! ## Altering a signed token -/

/-- The first part of every token that is signed here. -/
theorem dot_not_mem_header : '.' ∉ encodeText (render header) :=
  Base64Url.dot_not_mem_encode _

theorem dot_not_mem_payload (claims : Claims) : '.' ∉ encodeText (render (payload claims)) :=
  Base64Url.dot_not_mem_encode _

theorem sign_toList (claims : Claims) (secret : TokenSecret) :
    (sign claims secret).text.toList =
      message claims ++ '.' :: signature secret (message claims) := by
  rw [sign, String.toList_ofList]

variable {claims : Claims} {secret : TokenSecret} {altered : AccessToken}

theorem toList_ne_of_ne (hne : altered ≠ sign claims secret) :
    altered.text.toList ≠ message claims ++ '.' :: signature secret (message claims) := by
  rw [← sign_toList]
  intro heq
  exact hne (congrArg AccessToken.mk (String.toList_inj.mp heq))

/-- Behind the message of a signed token nothing but its signature is accepted. -/
theorem extract_of_message_kept {rest : List Char} (hne : altered ≠ sign claims secret)
    (heq : altered.text.toList = message claims ++ '.' :: rest) :
    extract altered secret = .error .claimsExtraction := by
  refine extract_eq_error_of_not_signed fun found head body given hsigned => ?_
  have hfirst : altered.text.toList = encodeText (render header) ++ '.' ::
      (encodeText (render (payload claims)) ++ '.' :: rest) := by
    rw [heq, message, List.append_assoc, List.cons_append]
  obtain ⟨hhead, hrest⟩ := hsigned.rest_eq dot_not_mem_header hfirst
  have hsplit := congrArg (splitFirst '.') hrest
  rw [splitFirst_append hsigned.body_unmarked, splitFirst_append (dot_not_mem_payload claims),
    Prod.mk.injEq, Option.some.injEq] at hsplit
  obtain ⟨hbody, hgiven⟩ := hsplit
  have hmessage : head ++ '.' :: body = message claims := by rw [hhead, hbody, message]
  -- the signature that is checked signs the message that was kept
  have hsignature : given = signature secret (message claims) := by
    rw [hsigned.signature_eq, hmessage, signature]
  rw [← hgiven, hsignature] at heq
  exact toList_ne_of_ne hne heq

/-- A text that is accepted with the signature of another message collides with that message. -/
theorem collide_of_signature_kept {other : List Char} {found : Claims}
    (hne : altered ≠ sign claims secret)
    (heq : altered.text.toList = other ++ '.' :: signature secret (message claims))
    (hfound : extract altered secret = .ok found) : Collide secret (message claims) other := by
  obtain ⟨head, body, given, hsigned⟩ := extract?_eq_some_iff.mp (extract_eq_ok.mp hfound)
  have hsplit := hsigned.splitLast_eq
  rw [heq, splitLast_append (dot_not_mem_signature secret _), Option.some.injEq,
    Prod.mk.injEq] at hsplit
  obtain ⟨rfl, hgiven⟩ := hsplit
  apply collide_of_signature_eq
  · rintro hsame
    rw [← hsame] at heq
    exact toList_ne_of_ne hne heq
  · rw [hgiven, hsigned.signature_eq, signature]

/-- Without its last mark a signed token has too few of them. -/
theorem extract_of_last_mark_replaced {c : Char} (hc : c ≠ '.')
    (heq : altered.text.toList =
      message claims ++ c :: signature secret (message claims)) :
    extract altered secret = .error .claimsExtraction := by
  refine extract_eq_error_of_not_signed fun found head body given hsigned => ?_
  rw [message, List.append_assoc, List.cons_append] at heq
  obtain ⟨-, hrest⟩ := hsigned.rest_eq dot_not_mem_header heq
  have hmem : '.' ∈ body ++ '.' :: given := List.mem_append_right _ List.mem_cons_self
  rw [hrest, List.mem_append, List.mem_cons] at hmem
  rcases hmem with hpayload | hreplaced | hsignature
  · exact dot_not_mem_payload claims hpayload
  · exact hc hreplaced.symm
  · exact dot_not_mem_signature secret _ hsignature

/-- A token with one character replaced is refused, or the message before its last mark collides
with the one that was signed. -/
theorem extract_of_character_replaced {position : Nat} {c : Char}
    (hne : altered ≠ sign claims secret)
    (heq : altered.text.toList = (sign claims secret).text.toList.set position c) :
    extract altered secret = .error .claimsExtraction ∨
      ∃ other, altered.text.toList = other ++ '.' :: signature secret (message claims) ∧
        Collide secret (message claims) other := by
  rw [sign_toList, List.set_append] at heq
  split at heq
  next =>
    -- the signature was kept
    rcases extract_cases altered secret with ⟨found, hfound⟩ | hrefused
    · exact .inr ⟨_, heq, collide_of_signature_kept hne heq hfound⟩
    · exact .inl hrefused
  next hle =>
    left
    cases hindex : position - (message claims).length with
    | zero =>
        rw [hindex, List.set_cons_zero] at heq
        by_cases hc : c = '.'
        · rw [hc] at heq
          exact absurd heq (toList_ne_of_ne hne)
        · exact extract_of_last_mark_replaced hc heq
    | succ index =>
        rw [hindex, List.set_cons_succ] at heq
        exact extract_of_message_kept hne heq

/-- Whatever is done to a signed token shows. What begins with the signed message and a mark is
refused. What ends with a mark and the signature is accepted only if its message collides with the
one that was signed, and the same is true of a token in which one character is replaced, be it in
the message, in the signature or a mark. -/
theorem altered_refused_or_collides (claims : Claims) (secret : TokenSecret)
    (altered : AccessToken) (hne : altered ≠ sign claims secret) :
    (∀ rest, altered.text.toList = message claims ++ '.' :: rest →
      extract altered secret = .error .claimsExtraction) ∧
    (∀ other found,
      altered.text.toList = other ++ '.' :: signature secret (message claims) →
        extract altered secret = .ok found → Collide secret (message claims) other) ∧
    (∀ position c,
      altered.text.toList = (sign claims secret).text.toList.set position c →
        extract altered secret = .error .claimsExtraction ∨
          ∃ other, altered.text.toList = other ++ '.' :: signature secret (message claims) ∧
            Collide secret (message claims) other) := by
  refine ⟨?_, ?_, ?_⟩
  · intro rest heq
    exact extract_of_message_kept hne heq
  · intro other found heq hfound
    exact collide_of_signature_kept hne heq hfound
  · intro position c heq
    exact extract_of_character_replaced hne heq

/-- A token is refused whose signature has got another mark and another character behind it. -/
theorem lengthened_signature_refused :
    let claims : Claims := ⟨"issuer", "7", "7", "user", .epoch, .latest⟩
    let secret : TokenSecret := ⟨[115]⟩
    let altered : AccessToken := ⟨(sign claims secret).text ++ ".A"⟩
    altered ≠ sign claims secret ∧ extract altered secret = .error .claimsExtraction := by
  intro claims secret altered
  have htext : altered.text.toList =
      message claims ++ '.' :: (signature secret (message claims) ++ ['.', 'A']) := by
    rw [String.toList_append, sign_toList, List.append_assoc, List.cons_append]
    rfl
  have hne : altered ≠ sign claims secret := by
    intro heq
    have hlength := congrArg (fun token : AccessToken => token.text.toList.length) heq
    simp [altered] at hlength
  exact ⟨hne, (altered_refused_or_collides claims secret altered hne).1 _ htext⟩

end SessionTokens.Jwt
