import VideoProbe.InfoJob
import VideoProbe.Proofs.Accepting
import VideoProbe.Proofs.Basic

/-!
# A request read a second time

When a request has been read, the texts are gone in which its UUID and its token were spelled.  To
speak of them, the same body is read a second time, by a reader that makes something else of these
two members and the same of all others (`SpelledRequest.decoder`).  A reader that takes the two
members wherever the real one does takes every body that the real one takes, and what the two of
them read differs in these members only (`spelled_of_read`).
-/

namespace VideoProbe

open VideoProbe.Json

/-- A request with something else for its UUID and for its token. -/
structure SpelledRequest (υ τ : Type) where
  uuid : υ
  videoPath : String
  webhookUri : Option String
  webhookToken : Option τ
  deriving DecidableEq

namespace SpelledRequest

/-- Such a request that is being read. -/
structure Draft (υ τ : Type) where
  uuid : Option υ := none
  videoPath : Option String := none
  webhookUri : Option (Option String) := none
  webhookToken : Option (Option τ) := none

/-- The fields of a request, where it is left open what a UUID and a token are. -/
def shape (uuid : Decoder υ) (token : Decoder (Option τ)) :
    Shape (Draft υ τ) (SpelledRequest υ τ) where
  name := InfoRequest.shape.name
  fields := [
    .of "uuid" uuid Draft.uuid (fun x d => { d with uuid := some x }) false,
    .of "video_path" .string Draft.videoPath (fun x d => { d with videoPath := some x }) false,
    .of "webhook_uri" (.optional .string) Draft.webhookUri
      (fun x d => { d with webhookUri := some x }) true,
    .of "webhook_token" token Draft.webhookToken
      (fun x d => { d with webhookToken := some x }) true]
  blank := {}
  finish d := do
    let uuid ← require "uuid" d.uuid
    let videoPath ← require "video_path" d.videoPath
    return ⟨uuid, videoPath, d.webhookUri.join, d.webhookToken.join⟩

/-- Reads a request with other readers for its UUID and for its token. -/
def decoder (uuid : Decoder υ) (token : Decoder (Option τ)) : Decoder (SpelledRequest υ τ) :=
  (shape uuid token).decoder

end SpelledRequest

section

variable {υ τ : Type} (R : Uuid → υ → Prop) (T : Option Token → Option τ → Prop)

/-- A request and what else was read for it: its UUID is related by `R` and its token by `T`. -/
structure InfoRequest.Spelt (q : InfoRequest) (spelled : SpelledRequest υ τ) : Prop where
  uuid : R q.uuid spelled.uuid
  videoPath : spelled.videoPath = q.videoPath
  webhookUri : spelled.webhookUri = q.webhookUri
  webhookToken : T q.webhookToken spelled.webhookToken

/-- The same of requests that are being read. -/
structure InfoRequest.Draft.Spelt (d : InfoRequest.Draft) (e : SpelledRequest.Draft υ τ) :
    Prop where
  uuid : Option.Rel R d.uuid e.uuid
  videoPath : e.videoPath = d.videoPath
  webhookUri : e.webhookUri = d.webhookUri
  webhookToken : Option.Rel T d.webhookToken e.webhookToken

variable {R T} {uuid : Decoder υ} {token : Decoder (Option τ)}

/-- Whoever takes UUIDs and tokens takes requests. -/
theorem laxer_spelled
    (huuid : ∀ nesting fuel s, Json.Laxer R (Decoder.identifier.read nesting fuel s)
      (uuid.read nesting fuel s))
    (htoken : ∀ nesting fuel s, Json.Laxer T (Token.optionalDecoder.read nesting fuel s)
      (token.read nesting fuel s))
    (hnone : T none none) :
    InfoRequest.shape.Laxer (InfoRequest.Draft.Spelt R T) (InfoRequest.Spelt R T)
      (SpelledRequest.shape uuid token) where
  fields := by
    -- One field after another: what is kept of it is related, and the others stay as they are.
    refine .cons ?_ (.cons ?_ (.cons ?_ (.cons ?_ .nil)))
    · refine Field.laxer_of (fun d e h => Option.isSome_eq_of_rel h.uuid) huuid ?_
      intro a b d e hab h
      exact ⟨.some hab, h.videoPath, h.webhookUri, h.webhookToken⟩
    · refine Field.laxer_of (fun d e h => by rw [h.videoPath]) (fun _ _ _ => laxer_refl _) ?_
      rintro a _ d e rfl h
      exact ⟨h.uuid, rfl, h.webhookUri, h.webhookToken⟩
    · refine Field.laxer_of (fun d e h => by rw [h.webhookUri]) (fun _ _ _ => laxer_refl _) ?_
      rintro a _ d e rfl h
      exact ⟨h.uuid, h.videoPath, rfl, h.webhookToken⟩
    · refine Field.laxer_of (fun d e h => Option.isSome_eq_of_rel h.webhookToken) htoken ?_
      intro a b d e hab h
      exact ⟨h.uuid, h.videoPath, h.webhookUri, .some hab⟩
  blank := ⟨.none, rfl, rfl, .none⟩
  finish d e q hde hq := by
    obtain ⟨uuid, videoPath, uri, token⟩ := d
    obtain ⟨uuid', videoPath', uri', token'⟩ := e
    obtain ⟨huuid, rfl, rfl, htoken⟩ := hde
    have hjoin : T token.join token'.join := by
      cases htoken with
      | none => exact hnone
      | some h => exact h
    -- The members that have to be there are there for both.
    cases huuid with
    | none => exact nomatch hq
    | some huuid =>
      cases videoPath' with
      | none => exact nomatch hq
      | some videoPath =>
        cases hq
        exact ⟨_, rfl, huuid, rfl, rfl, hjoin⟩

/-- **A body that is read as a request** is read the second time, with the same in all other
members. -/
theorem spelled_of_read
    (huuid : ∀ nesting fuel s, Json.Laxer R (Decoder.identifier.read nesting fuel s)
      (uuid.read nesting fuel s))
    (htoken : ∀ nesting fuel s, Json.Laxer T (Token.optionalDecoder.read nesting fuel s)
      (token.read nesting fuel s))
    (hnone : T none none) {body : Octets} {q : InfoRequest}
    (h : InfoRequest.decoder.ofOctets body = .ok q) :
    ∃ spelled, (SpelledRequest.decoder uuid token).ofOctets body = .ok spelled ∧
      q.Spelt R T spelled :=
  ofOctets_of_laxer (laxer_spelled huuid htoken hnone).read h

end

end VideoProbe
