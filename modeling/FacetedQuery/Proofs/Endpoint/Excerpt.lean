import FacetedQuery.Endpoint.Exchange
import FacetedQuery.Proofs.Text.Decoding

/-!
# What is kept of an answer that is no success

The fault that such an answer becomes holds a start of its text.  A text of more bytes than the
limit is cut at a border of its characters, and as much of it is kept as whole characters allow.
-/

namespace FacetedQuery.Endpoint

open Text (LongestStart byteOrderMark encodeUtf8 isCharBorder lastCharBorder? takeBytes)

namespace Reply

/-- What is kept of a text is the longest start of it within the limit. -/
theorem longestStart_excerpt (text : List Char) :
    LongestStart excerptLimit text (excerpt text) := by
  unfold excerpt
  dsimp only
  split
  case isTrue long =>
    have longest := Text.longestStart_takeBytes excerptLimit text
    have same : takeBytes (encodeUtf8 (takeBytes excerptLimit text)).length text =
        takeBytes excerptLimit text :=
      (Text.longestStart_takeBytes _ text).unique (.ofStart longest.isStart)
    rw [Text.lastCharBorder?_encodeUtf8 longest, Option.getD_some, same]
    exact longest
  case isFalse short => exact .whole (Nat.le_of_not_lt short)

variable {reply : Reply}

theorem status_received (reply : Reply) : reply.received.status = reply.status := by
  unfold received
  split <;> rfl

theorem solutions_of_refused (refused : reply.isSuccess = false) (endpoint : String) :
    (Exchange.answered reply).solutions endpoint =
      .error (.status endpoint reply.status (String.ofList (excerpt reply.received.text))) := by
  have refusedToo : ¬reply.received.isSuccess = true := by
    rw [isSuccess, status_received, ← isSuccess, refused]
    exact Bool.false_ne_true
  change reply.received.solutions endpoint = _
  rw [solutions, if_neg refusedToo, status_received]
  rfl

theorem exists_body (hasBody : reply.isBodiless = false) (text : List Char) :
    ∃ body, { reply with body, delivery := .whole : Reply }.received.text = text := by
  refine ⟨byteOrderMark ++ encodeUtf8 text, ?_⟩
  have arrives : ¬{ reply with body := byteOrderMark ++ encodeUtf8 text, delivery := .whole :
      Reply }.isBodiless = true := Bool.eq_false_iff.mp hasBody
  rw [received, if_neg arrives]
  exact Text.decodeLossy_encodeUtf8 text

/-- The fault of an answer that is no success holds the longest start of its text that takes at most
512 bytes: all of a text that is so short, and else 509 bytes or more up to the last border, at
which no character is divided.  Every text can be the one of such an answer. -/
theorem excerpt_ends_at_border (refused : reply.isSuccess = false) (endpoint : String) :
    (∃ kept, (Exchange.answered reply).solutions endpoint =
        .error (.status endpoint reply.status (String.ofList kept)) ∧
      LongestStart 512 reply.received.text kept ∧
      ((encodeUtf8 reply.received.text).length ≤ 512 → kept = reply.received.text) ∧
      (512 < (encodeUtf8 reply.received.text).length →
        509 ≤ (encodeUtf8 kept).length ∧ (encodeUtf8 kept).length ≤ 512 ∧
        ∃ index, lastCharBorder? 512 (encodeUtf8 reply.received.text) = some index ∧
          isCharBorder (encodeUtf8 reply.received.text) index = true ∧
          encodeUtf8 kept = (encodeUtf8 reply.received.text).take index)) ∧
    (reply.isBodiless = false → ∀ text, ∃ body,
      { reply with body, delivery := .whole : Reply }.received.text = text) := by
  refine ⟨⟨_, solutions_of_refused refused endpoint, ?_⟩, fun hasBody => exists_body hasBody⟩
  have longest : LongestStart 512 reply.received.text (excerpt reply.received.text) :=
    longestStart_excerpt reply.received.text
  refine ⟨longest, fun short => longest.unique (.whole short), fun long => ?_⟩
  have least := longest.limit_le long
  refine ⟨by omega, longest.fits, _, Text.lastCharBorder?_encodeUtf8 longest, ?_, ?_⟩
  · exact Text.isCharBorder_iff.mpr ⟨_, longest.isStart, rfl⟩
  · exact List.prefix_iff_eq_take.mp (Text.isPrefix_encodeUtf8 longest.isStart)

/-- A text whose last character begins in front of the limit and ends behind it. -/
def acrossText : List Char :=
  List.replicate 509 'a' ++ ['😀']

def acrossReply : Reply :=
  ⟨503, byteOrderMark ++ encodeUtf8 acrossText, .whole⟩

theorem length_encodeUtf8_replicate (number : Nat) :
    (encodeUtf8 (List.replicate number 'a')).length = number := by
  induction number with
  | zero => rfl
  | succ number induction =>
      have one : 'a'.utf8Size = 1 := rfl
      rw [List.replicate_succ, Text.length_encodeUtf8_cons, induction, one, Nat.add_comm]

/-- The character across the limit is left out. -/
theorem excerpt_ends_at_border_across : acrossReply.isSuccess = false ∧
    (Exchange.answered acrossReply).solutions "e" =
      .error (.status "e" 503 (String.ofList (List.replicate 509 'a'))) := by
  have refused : acrossReply.isSuccess = false := rfl
  obtain ⟨⟨kept, answer, longest, -, -⟩, -⟩ := excerpt_ends_at_border refused "e"
  have received : acrossReply.received.text = acrossText := Text.decodeLossy_encodeUtf8 acrossText
  rw [received] at longest
  have bytes := length_encodeUtf8_replicate 509
  have inside : LongestStart 512 acrossText (List.replicate 509 'a') := by
    refine ⟨List.prefix_append _ _, by omega, fun other isStart fits => ?_⟩
    rcases List.prefix_concat_iff.mp isStart with rfl | within
    · rw [Text.encodeUtf8_append, List.length_append, bytes] at fits
      exact absurd fits (by decide)
    · exact within
  rw [longest.unique inside] at answer
  exact ⟨refused, answer⟩

end Reply

end FacetedQuery.Endpoint
