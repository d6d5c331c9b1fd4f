import Mathlib.Data.List.Infix
import ChatMarkup.Proofs.ReferenceDecoding

/-!
Texts that are left as written. Where a text has no name and no number between an ampersand and a
semicolon, only a number with a plus sign can still be read as a reference.
-/

namespace ChatMarkup.Text

namespace Reference

/-! ## Bodies in a text -/

def Holds (text body : List Char) : Prop := '&' :: (body ++ [';']) <:+: text

theorem holds_cons_iff {char : Char} {rest body : List Char} :
    Holds (char :: rest) body ↔ '&' :: (body ++ [';']) <+: char :: rest ∨ Holds rest body :=
  List.infix_cons_iff

/-- What stands between each ampersand and the next semicolon, or the end of the text. -/
def bodies : List Char → List (List Char)
  | [] => []
  | '&' :: rest => (rest.span (· != ';')).1 :: bodies rest
  | _ :: rest => bodies rest

theorem mem_bodies_of_holds {text body : List Char} (unended : ';' ∉ body)
    (holds : Holds text body) : body ∈ bodies text := by
  induction text with
  | nil => cases List.eq_nil_of_infix_nil holds
  | cons char rest induction =>
      rcases holds_cons_iff.mp holds with ⟨after, whole⟩ | inRest
      · rw [List.cons_append, List.append_assoc, List.singleton_append, List.cons.injEq] at whole
        rcases whole with ⟨rfl, rfl⟩
        rw [bodies, span_of_free unended]
        exact List.mem_cons_self
      · rw [bodies.eq_def]
        split
        · rename_i whole
          cases whole
        · rename_i whole
          cases whole
          exact List.mem_cons_of_mem _ (induction inRest)
        · rename_i whole
          cases whole
          exact induction inRest

/-- Of what is read as a reference, a text holds nothing but what is among its bodies. -/
theorem not_holds_of_bodies {text : List Char} {test : List Char → Bool}
    (read : ∀ body, test body = true → (body? body).isSome = true)
    (none : ∀ body ∈ bodies text, test body = false) (body : List Char)
    (passes : test body = true) : ¬Holds text body := by
  intro holds
  rcases Option.isSome_iff_exists.mp (read body passes) with ⟨char, stands⟩
  have unended : ';' ∉ body := notMem_of_body? (by decide) stands
  have fails := none body (mem_bodies_of_holds unended holds)
  rw [passes] at fails
  cases fails

theorem isSome_body?_of_isWritten {body : List Char} (written : isWritten body = true) :
    (body? body).isSome = true := by
  rw [isSome_body?, written, Bool.true_or]

theorem isSome_body?_of_isSigned {body : List Char} (signed : isSigned body = true) :
    (body? body).isSome = true := by
  rw [isSome_body?, signed, Bool.or_true]

end Reference

open Reference

/-! ## When decoding changes nothing -/

/-- Decoding a reference makes a text shorter, so only texts without references stay the same. -/
theorem decodeReferences_eq_self_iff (text : List Char) :
    decodeReferences text = text ↔ ∀ body, Holds text body → sizedBody? body = none := by
  -- The bound on the length is what keeps a decoded reference from giving the same text again.
  refine (decodeReferences_induction (motive := fun text result =>
    result.length ≤ text.length ∧
      (result = text ↔ ∀ body, Holds text body → sizedBody? body = none)) ?_ ?_ ?_ text).2
  · refine ⟨Nat.le_refl _, fun _ body holds => ?_, fun _ => rfl⟩
    cases List.eq_nil_of_infix_nil holds
  · intro char rest noReference induction
    refine ⟨Nat.succ_le_succ induction.1, ?_⟩
    rw [List.cons.injEq, induction.2]
    constructor
    · rintro ⟨-, unread⟩ body holds
      rcases holds_cons_iff.mp holds with ⟨after, whole⟩ | inRest
      · rw [Option.eq_none_iff_forall_ne_some]
        intro stands decoded
        exact noReference ⟨body, stands, after, by simp [← whole], decoded⟩
      · exact unread body inRest
    · exact fun unread => ⟨rfl, fun body holds => unread body (holds_cons_iff.mpr (.inr holds))⟩
  · intro body char rest decoded induction
    have shorter :
        (char :: decodeReferences rest).length < ('&' :: (body ++ ';' :: rest)).length := by
      simp only [List.length_cons, List.length_append]
      omega
    refine ⟨Nat.le_of_lt shorter, ?_, ?_⟩
    · intro same
      exact absurd (congrArg List.length same) (Nat.ne_of_lt shorter)
    · intro unread
      have holds : Holds ('&' :: (body ++ ';' :: rest)) body := ⟨[], rest, by simp⟩
      rw [unread body holds] at decoded
      cases decoded

/-- A text without a name or a number between an ampersand and a semicolon stays as it is, unless
it has a number with a plus sign there. -/
theorem decode_unwritten (text : List Char)
    (unwritten : ∀ body, isWritten body = true → ¬Holds text body) :
    decodeReferences text = text ↔
      ∀ body, isSigned body = true → byteSize body ≤ maxBodySize → ¬Holds text body := by
  rw [decodeReferences_eq_self_iff]
  constructor
  · intro unread body signed short holds
    have read := isSome_body?_of_isSigned signed
    have positive : 0 < byteSize body := by
      cases body with
      | nil => cases signed
      | cons char rest => exact Nat.add_pos_left char.utf8Size_pos _
    have none := unread body holds
    rw [sizedBody?, if_pos ⟨positive, short⟩] at none
    rw [none] at read
    cases read
  · intro unsigned body holds
    rw [Option.eq_none_iff_forall_ne_some]
    intro char decoded
    rcases sizedBody?_eq_some_iff.mp decoded with ⟨sized, read⟩
    have spelled := isSome_body? body
    rw [read, Option.isSome_some] at spelled
    rcases Bool.or_eq_true_iff.mp spelled.symm with written | signed
    · exact unwritten body written holds
    · exact unsigned body signed sized.2 holds

theorem decode_unwritten_malformed :
    let text := "AT&T &bogus; &&; &; &#; &#x; &#xG1; &#-1; &# 39; &#+; &#++39; &é;".toList
    (∀ body, isWritten body = true → ¬Holds text body) ∧ decodeReferences text = text := by
  intro text
  have unwritten : ∀ body, isWritten body = true → ¬Holds text body :=
    not_holds_of_bodies (fun _ => isSome_body?_of_isWritten) (by decide +kernel)
  have unsigned : ∀ body, isSigned body = true → ¬Holds text body :=
    not_holds_of_bodies (fun _ => isSome_body?_of_isSigned) (by decide +kernel)
  exact ⟨unwritten,
    (decode_unwritten text unwritten).mpr fun body signed _ => unsigned body signed⟩

/-- A plus sign in front of the digits is read, although it is no part of a numeric reference. -/
theorem signed_number_decoded :
    let text := "&#+65;".toList
    (∀ body, isWritten body = true → ¬Holds text body) ∧
    decodeReferences text = "A".toList ∧ decodeReferences text ≠ text :=
  ⟨not_holds_of_bodies (fun _ => isSome_body?_of_isWritten) (by decide +kernel),
    by decide +kernel, by decide +kernel⟩

end ChatMarkup.Text
