import VideoProbe.Delivery
import VideoProbe.Proofs.Stored

/-!
# What a counted delivery delivered

A delivery counts as soon as the last request of its chain is answered with success.  The chain may
have been redirected on the way, and there are two kinds of redirection: one repeats the request,
the other turns it into one that asks and carries no body.  Nobody looks back to see which of them
was met.

`Trail` is the chain of one request as a relation, one line for each way in which it goes on or
ends, and `Hears` is what the other side sees of it; `send` runs along a trail (`trail_of_send`),
and there is only one that fits the replies of the other side (`send_of_trail`).  There is none
where there is nobody to be reached or no address to send to, and these are the only cases in which
nothing is sent (`trail_of_post`).

The crux is the body law (`Trail.body`): a request of the chain carries the payload if and only if
no redirection before it dropped the body.  So an attempt that counts has delivered the payload
exactly if all its redirections repeat the request (`success_iff_counted`), and it may count without
having delivered anything to the one who answered (`success_without_payload`).
-/

namespace VideoProbe.Delivery

/-! ## Requests that arrive -/

/-- A request that arrived, and what the other side did with it. -/
structure Hop where
  request : Outgoing
  reply : Reply

/-- The reply redirects to a request without a body. -/
def Hop.drops (hop : Hop) : Bool :=
  match hop.reply with
  | .answer status _ => status = 301 ∨ status = 302 ∨ status = 303
  | .silence | .hangUp => false

/-- The reply redirects to the same request at another place. -/
def Hop.repeats (hop : Hop) : Bool :=
  match hop.reply with
  | .answer status _ => status = 307 ∨ status = 308
  | .silence | .hangUp => false

/-- The reply is one of success. -/
def Hop.succeeds (hop : Hop) : Bool :=
  match hop.reply with
  | .answer status _ => isSuccess status
  | .silence | .hangUp => false

/-- A reply that redirects is none of success. -/
theorem Hop.not_succeeds {hop : Hop} (h : hop.repeats = true ∨ hop.drops = true) :
    hop.succeeds = false := by
  unfold Hop.repeats Hop.drops at h
  unfold Hop.succeeds
  cases hreply : hop.reply with
  | answer status location =>
    simp only [hreply, decide_eq_true_eq] at h
    show (decide (200 ≤ status) && decide (status ≤ 299)) = false
    rw [Bool.and_eq_false_iff, decide_eq_false_iff_not, decide_eq_false_iff_not]
    omega
  | silence => rfl
  | hangUp => rfl

/-- Of the two kinds of redirection a reply is one, and not the other. -/
theorem Hop.repeats_iff {hop : Hop} (h : hop.repeats = true ∨ hop.drops = true) :
    hop.repeats = true ↔ hop.drops = false := by
  unfold Hop.repeats Hop.drops at h ⊢
  cases hreply : hop.reply with
  | answer status location =>
    simp only [hreply, decide_eq_true_eq, decide_eq_false_iff_not] at h ⊢
    omega
  | silence => simp [hreply] at h
  | hangUp => simp [hreply] at h

/-- What a script replies to some number of requests; where it ends, the answer is *200*. -/
def given : List Reply → Nat → List Reply
  | _, 0 => []
  | [], n + 1 => .answer 200 none :: given [] n
  | reply :: replies, n + 1 => reply :: given replies n

/-- The other side has seen these requests, in order, and has replied to them as its script says. -/
structure Hears (p : Peer) (hops : List Hop) (p' : Peer) : Prop where
  seen : p'.seen = p.seen ++ hops.map Hop.request
  replies : hops.map Hop.reply = given p.replies hops.length
  left : p'.replies = p.replies.drop hops.length

/-- Where nothing is sent, the other side stays as it is. -/
theorem hears_nothing (p : Peer) : Hears p [] p where
  seen := (List.append_nil _).symm
  replies := rfl
  left := rfl

/-- Handing over one request. -/
theorem hears_exchange {p p' : Peer} {r : Outgoing} {reply : Reply}
    (h : p.exchange r = (reply, p')) : Hears p [⟨r, reply⟩] p' := by
  unfold Peer.exchange at h
  cases hreplies : p.replies with
  | nil =>
    rw [hreplies] at h
    cases h
    constructor <;> simp [hreplies, given]
  | cons first rest =>
    rw [hreplies] at h
    cases h
    constructor <;> simp [hreplies, given]

/-- Whoever has been reached once can be reached again. -/
theorem exchange_reachable {p p' : Peer} {r : Outgoing} {reply : Reply}
    (h : p.exchange r = (reply, p')) : p'.reachable = p.reachable := by
  unfold Peer.exchange at h
  split at h <;> cases h <;> rfl

/-- What is replied next is the next reply of the script. -/
theorem exchange_of_given {p : Peer} {reply : Reply} {replies : List Reply} {n : Nat}
    (h : reply :: replies = given p.replies (n + 1)) (r : Outgoing) :
    ∃ p', p.exchange r = (reply, p') ∧ replies = given p'.replies n := by
  unfold Peer.exchange
  cases hp : p.replies with
  | nil =>
    rw [hp] at h
    obtain ⟨rfl, hrest⟩ := List.cons.inj h
    exact ⟨_, rfl, hrest⟩
  | cons first rest =>
    rw [hp] at h
    obtain ⟨rfl, hrest⟩ := List.cons.inj h
    exact ⟨_, rfl, hrest⟩

/-- One request, and then some more. -/
theorem Hears.cons {p p1 p2 : Peer} {hop : Hop} {hops : List Hop} (h : Hears p [hop] p1)
    (h' : Hears p1 hops p2) : Hears p (hop :: hops) p2 where
  seen := by
    rw [h'.seen, h.seen, List.append_assoc]
    rfl
  replies := by
    -- The rest is replied to from what the first reply leaves of the script.
    have hfirst : [hop.reply] = given p.replies 1 := h.replies
    have hrest := h'.replies
    rw [h.left] at hrest
    show hop.reply :: hops.map Hop.reply = given p.replies (hops.length + 1)
    cases hp : p.replies with
    | nil =>
      rw [hp] at hfirst hrest
      rw [hrest, (List.cons.inj hfirst).1]
      rfl
    | cons reply replies =>
      rw [hp] at hfirst hrest
      rw [hrest, (List.cons.inj hfirst).1]
      rfl
  left := by
    rw [h'.left, h.left, List.drop_drop]
    congr 1
    simp only [List.length_cons, List.length_nil]
    omega

/-- Arrivals with the same requests and the same replies are the same. -/
theorem Hop.eq_of_map {hops hops' : List Hop}
    (hrequests : hops.map Hop.request = hops'.map Hop.request)
    (hreplies : hops.map Hop.reply = hops'.map Hop.reply) : hops = hops' := by
  induction hops generalizing hops' with
  | nil => exact (List.map_eq_nil_iff.1 hrequests.symm).symm
  | cons hop hops ih =>
    cases hops' with
    | nil => simp at hrequests
    | cons hop' hops' =>
      obtain ⟨hrequest, hlater⟩ := List.cons.inj hrequests
      obtain ⟨hreply, hlater'⟩ := List.cons.inj hreplies
      rcases hop with ⟨request, reply⟩
      rcases hop' with ⟨request', reply'⟩
      obtain rfl : request = request' := hrequest
      obtain rfl : reply = reply' := hreply
      rw [ih hlater hlater']

/-- From what the other side has seen in the end it can be told what has arrived. -/
theorem Hears.unique {p p' : Peer} {hops hops' : List Hop} (h : Hears p hops p')
    (h' : Hears p hops' p') : hops = hops' := by
  have hrequests : hops.map Hop.request = hops'.map Hop.request :=
    List.append_cancel_left (h.seen.symm.trans h'.seen)
  have hlength : hops.length = hops'.length := by
    simpa using congrArg List.length hrequests
  refine Hop.eq_of_map hrequests ?_
  rw [h.replies, h'.replies, hlength]

section

variable [Url.DomainRules]

/-! ## Chains of requests -/

/-- The chain that begins with a request to someone who can be reached, where some number of
redirections is still followed: the requests that arrive, with their replies, and what comes of it
all. -/
inductive Trail : Nat → Outgoing → List Hop → Except Fault Nat → Prop
  | unanswered {left : Nat} {r : Outgoing} {reply : Reply}
      (h : reply = .silence ∨ reply = .hangUp) :
      Trail left r [⟨r, reply⟩] (.error (.unsent r.url.text))
  | answered {left : Nat} {r : Outgoing} {status : Nat} {location : Option String}
      (h : redirected r status location = none) :
      Trail left r [⟨r, .answer status location⟩] (.ok status)
  | endless {r next : Outgoing} {status : Nat} {location : Option String}
      (h : redirected r status location = some next) :
      Trail 0 r [⟨r, .answer status location⟩] (.error (.endless r.url.text))
  | astray {left : Nat} {r next : Outgoing} {status : Nat} {location : Option String}
      (h : redirected r status location = some next) (hweb : isOfWeb next.url = false) :
      Trail (left + 1) r [⟨r, .answer status location⟩] (.error (.unaddressable next.url.text))
  | followed {left : Nat} {r next : Outgoing} {status : Nat} {location : Option String}
      {hops : List Hop} {result : Except Fault Nat}
      (h : redirected r status location = some next) (hweb : isOfWeb next.url = true)
      (ht : Trail left next hops result) :
      Trail (left + 1) r (⟨r, .answer status location⟩ :: hops) result

/-- A trail begins with its request, so it is never empty. -/
theorem Trail.starts {left : Nat} {r : Outgoing} {hops : List Hop} {result : Except Fault Nat}
    (h : Trail left r hops result) : ∃ reply rest, hops = ⟨r, reply⟩ :: rest := by
  cases h <;> exact ⟨_, _, rfl⟩

/-- Nothing arrives where nobody can be reached. -/
theorem send_of_unreachable {p : Peer} (h : p.reachable = false) (left : Nat) (r : Outgoing) :
    send left r p = (.error (.unsent r.url.text), p) := by
  unfold send
  rw [h, Bool.not_false, if_pos rfl]

/-- **Sending** to someone who can be reached runs along a trail, by the recursion of the sender. -/
theorem trail_of_send (left : Nat) (r : Outgoing) (p : Peer) (hreachable : p.reachable = true) :
    ∃ hops, Trail left r hops (send left r p).1 ∧ Hears p hops (send left r p).2 := by
  fun_induction send left r p with
  | case1 left r p h => simp [hreachable] at h
  | case2 left r p h p1 hx => exact ⟨_, .unanswered (Or.inl rfl), hears_exchange hx⟩
  | case3 left r p h p1 hx => exact ⟨_, .unanswered (Or.inr rfl), hears_exchange hx⟩
  | case4 left r p h status location p1 hx hnone => exact ⟨_, .answered hnone, hears_exchange hx⟩
  | case5 r p h status location p1 hx next hnext => exact ⟨_, .endless hnext, hears_exchange hx⟩
  | case6 r p h status location p1 hx next hnext left hweb ih =>
    obtain ⟨hops, ht, hh⟩ := ih ((exchange_reachable hx).trans hreachable)
    exact ⟨_, .followed hnext hweb ht, (hears_exchange hx).cons hh⟩
  | case7 r p h status location p1 hx next hnext left hweb =>
    exact ⟨_, .astray hnext (eq_false_of_ne_true hweb), hears_exchange hx⟩

/-- **And there is no other trail** that fits the replies of the other side, by induction on the
trail. -/
theorem send_of_trail {left : Nat} {r : Outgoing} {hops : List Hop} {result : Except Fault Nat}
    (h : Trail left r hops result) {p : Peer} (hreachable : p.reachable = true)
    (hreplies : hops.map Hop.reply = given p.replies hops.length) :
    ∃ p', send left r p = (result, p') ∧ Hears p hops p' := by
  have hnot : ¬ (!p.reachable) = true := by simp [hreachable]
  induction h generalizing p with
  | @unanswered left r reply hreply =>
    obtain ⟨p', hx, -⟩ := exchange_of_given hreplies r
    refine ⟨p', ?_, hears_exchange hx⟩
    unfold send
    rw [if_neg hnot, hx]
    rcases hreply with rfl | rfl <;> rfl
  | @answered left r status location hnone =>
    obtain ⟨p', hx, -⟩ := exchange_of_given hreplies r
    refine ⟨p', ?_, hears_exchange hx⟩
    unfold send
    rw [if_neg hnot, hx]
    dsimp only
    rw [hnone]
  | @endless r next status location hnext =>
    obtain ⟨p', hx, -⟩ := exchange_of_given hreplies r
    refine ⟨p', ?_, hears_exchange hx⟩
    unfold send
    rw [if_neg hnot, hx]
    dsimp only
    rw [hnext]
  | @astray left r next status location hnext hweb =>
    obtain ⟨p', hx, -⟩ := exchange_of_given hreplies r
    refine ⟨p', ?_, hears_exchange hx⟩
    unfold send
    rw [if_neg hnot, hx]
    dsimp only
    rw [hnext]
    dsimp only
    rw [if_neg (by simp [hweb])]
  | @followed left r next status location hops result hnext hweb ht ih =>
    -- The rest of the trail fits what is left of the script.
    obtain ⟨p1, hx, hrest⟩ := exchange_of_given hreplies r
    have hreachable' := (exchange_reachable hx).trans hreachable
    obtain ⟨p', hsend, hh⟩ := ih hreachable' hrest (by simp [hreachable'])
    refine ⟨p', ?_, (hears_exchange hx).cons hh⟩
    unfold send
    rw [if_neg hnot, hx]
    dsimp only
    rw [hnext]
    dsimp only
    rw [if_pos hweb, hsend]

/-! ## Addresses -/

/-- A request can be sent to an address: it is read as a URL with a host, which is one of the web
and can be written into a request once its user information is taken out. -/
structure Requestable (address : String) (url : Url) : Prop where
  read : Url.parse address = .ok url
  named : url.hasHost = true
  ofWeb : isOfWeb url.withoutUserinfo = true
  addressable : isAddressable url.withoutUserinfo = true

/-- No request can be built: there is nothing that it could be addressed to. -/
def Fault.IsOfBuilder (fault : Fault) : Prop :=
  fault = .malformed ∨ ∃ url, fault = .unaddressable url

/-- Posting to an address that a request can be sent to sends one. -/
theorem post_of_requestable {address : String} {url : Url} (h : Requestable address url)
    (body : String) (p : Peer) :
    post address body p = send maxRedirects (.posting url.withoutUserinfo body) p := by
  unfold post
  rw [h.read]
  dsimp only
  rw [h.named, h.ofWeb, h.addressable, Bool.not_true, if_neg Bool.false_ne_true, Bool.and_true,
    if_pos rfl]

/-- Posting to any other address does not build one. -/
theorem post_of_not_requestable {address : String} (h : ∀ url, ¬ Requestable address url)
    (body : String) :
    ∃ fault : Fault, fault.IsOfBuilder ∧ ∀ p, post address body p = (.error fault, p) := by
  unfold post
  cases hread : Url.parse address with
  | error fault => exact ⟨.malformed, Or.inl rfl, fun p => rfl⟩
  | ok url =>
    dsimp only
    cases hnamed : url.hasHost with
    | false => exact ⟨.unaddressable url.text, Or.inr ⟨_, rfl⟩, fun p => rfl⟩
    | true =>
      refine ⟨.unaddressable url.withoutUserinfo.text, Or.inr ⟨_, rfl⟩, fun p => ?_⟩
      rw [Bool.not_true, if_neg Bool.false_ne_true, if_neg]
      intro hsent
      rw [Bool.and_eq_true] at hsent
      exact h url ⟨hread, hnamed, hsent.1, hsent.2⟩

/-- **Posting** runs along the trail of the body, to the URL that the address is read as.  Only two
things keep it from being sent at all: there is nobody to be reached, or no request can be built. -/
theorem trail_of_post (address body : String) (p : Peer) :
    ∃ hops, Hears p hops (post address body p).2 ∧
      ((hops = [] ∧ (p.reachable = false ∨ ∀ url, ¬ Requestable address url) ∧
          ∃ fault, (post address body p).1 = .error fault) ∨
        (p.reachable = true ∧ ∃ url, Requestable address url ∧
          Trail maxRedirects (.posting url.withoutUserinfo body) hops
            (post address body p).1)) := by
  by_cases hurl : ∃ url, Requestable address url
  · obtain ⟨url, hurl⟩ := hurl
    rw [post_of_requestable hurl]
    cases hreachable : p.reachable with
    | false =>
      rw [send_of_unreachable hreachable]
      exact ⟨[], hears_nothing p, Or.inl ⟨rfl, Or.inl rfl, _, rfl⟩⟩
    | true =>
      obtain ⟨hops, ht, hh⟩ := trail_of_send maxRedirects (.posting url.withoutUserinfo body) p
        hreachable
      exact ⟨hops, hh, Or.inr ⟨rfl, url, hurl, ht⟩⟩
  · have hnone : ∀ url, ¬ Requestable address url := not_exists.1 hurl
    obtain ⟨fault, -, hpost⟩ := post_of_not_requestable hnone body
    rw [hpost p]
    exact ⟨[], hears_nothing p, Or.inl ⟨rfl, Or.inr hnone, fault, rfl⟩⟩

/-! ## What a chain carries -/

/-- A redirection that is followed drops the body or repeats the request, and not both. -/
theorem redirected_cases {r next : Outgoing} {status : Nat} {location : Option String}
    (h : redirected r status location = some next) :
    (Hop.drops ⟨r, .answer status location⟩ = true ∧
        Hop.repeats ⟨r, .answer status location⟩ = false ∧
        next = { r.asking with url := next.url }) ∨
      (Hop.drops ⟨r, .answer status location⟩ = false ∧
        Hop.repeats ⟨r, .answer status location⟩ = true ∧ next = { r with url := next.url }) := by
  -- Whatever becomes of the location, all else of the next request is decided by the status.
  obtain ⟨plain, hplain, hnext⟩ : ∃ plain, redirection? status r = some plain ∧
      next = { plain with url := next.url } := by
    unfold redirected at h
    split at h
    · rename_i plain text hplain
      split at h
      · split at h
        · cases h
          exact ⟨plain, hplain, rfl⟩
        · simp at h
      · simp at h
    · simp at h
  unfold redirection? at hplain
  split at hplain
  · rename_i hdrops
    have hkeeps : ¬ (status = 307 ∨ status = 308) := by omega
    cases hplain
    exact Or.inl ⟨by simp [Hop.drops, hdrops], by simpa [Hop.repeats] using hkeeps, hnext⟩
  · rename_i hkeeps
    split at hplain
    · rename_i hrepeats
      cases hplain
      exact Or.inr ⟨by simpa [Hop.drops] using hkeeps, by simp [Hop.repeats, hrepeats], hnext⟩
    · simp at hplain

/-- So a reply that is followed is a redirection of one kind or the other. -/
theorem redirects_of_redirected {r next : Outgoing} {status : Nat} {location : Option String}
    (h : redirected r status location = some next) :
    Hop.repeats ⟨r, .answer status location⟩ = true ∨
      Hop.drops ⟨r, .answer status location⟩ = true := by
  rcases redirected_cases h with ⟨hdrops, -⟩ | ⟨-, hrepeats, -⟩
  · exact Or.inr hdrops
  · exact Or.inl hrepeats

/-- Only the last request of a chain may have been answered by anything else than a redirection. -/
theorem Trail.redirections {left : Nat} {r : Outgoing} {hops : List Hop}
    {result : Except Fault Nat} (h : Trail left r hops result) :
    ∀ hop ∈ hops.dropLast, hop.repeats = true ∨ hop.drops = true := by
  induction h with
  | @followed left r next status location hops result hnext hweb ht ih =>
    intro hop hmem
    cases hops with
    | nil => simp at hmem
    | cons hop' hops =>
      rcases List.mem_cons.1 hmem with rfl | hmem
      · exact redirects_of_redirected hnext
      · exact ih hop hmem
  | _ => simp

/-- A request of the chain is the first one at another place, unless a redirection before it has
turned it into one that only asks. -/
theorem Trail.request {left : Nat} {r : Outgoing} {hops : List Hop} {result : Except Fault Nat}
    (h : Trail left r hops result) (before : List Hop) (hop : Hop) (after : List Hop)
    (heq : hops = before ++ hop :: after) :
    hop.request =
      { (if before.any Hop.drops then r.asking else r) with url := hop.request.url } := by
  induction h generalizing before with
  | @followed left r next status location hops result hnext hweb ht ih =>
    cases before with
    | nil =>
      obtain ⟨rfl, -⟩ := List.cons.inj heq
      rfl
    | cons first before =>
      obtain ⟨rfl, hrest⟩ := List.cons.inj heq
      have hrequest := ih before hrest
      rcases redirected_cases hnext with ⟨hdrops, -, hasks⟩ | ⟨hkeeps, -, hsame⟩
      · -- From here on it only asks, whatever is dropped once more.
        rw [hasks] at hrequest
        rw [List.any_cons, hdrops, Bool.true_or, if_pos rfl, hrequest]
        cases before.any Hop.drops <;> rfl
      · rw [hsame] at hrequest
        rw [List.any_cons, hkeeps, Bool.false_or, hrequest]
        cases before.any Hop.drops <;> rfl
  | _ =>
    -- There is one request only.
    cases before with
    | nil =>
      obtain ⟨rfl, -⟩ := List.cons.inj heq
      rfl
    | cons first before => simp at heq

/-- **The body law.**  A request of the chain carries what the first one carried, unless a
redirection before it dropped the body. -/
theorem Trail.body {left : Nat} {r : Outgoing} {hops : List Hop} {result : Except Fault Nat}
    (h : Trail left r hops result) (before : List Hop) (hop : Hop) (after : List Hop)
    (heq : hops = before ++ hop :: after) :
    hop.request.body = if before.any Hop.drops then none else r.body := by
  have hbody := congrArg Outgoing.body (h.request before hop after heq)
  rw [hbody]
  cases before.any Hop.drops <;> rfl

/-- The chain ends with success if and only if its last reply is one of success. -/
theorem Trail.ok_iff {left : Nat} {r : Outgoing} {hops : List Hop} {result : Except Fault Nat}
    (h : Trail left r hops result) :
    (∃ status, result = .ok status ∧ isSuccess status = true) ↔
      ∃ last, hops.getLast? = some last ∧ last.succeeds = true := by
  induction h with
  | @unanswered left r reply hreply => rcases hreply with rfl | rfl <;> simp [Hop.succeeds]
  | answered hnone => simp [Hop.succeeds]
  | endless hnext => simp [Hop.not_succeeds (redirects_of_redirected hnext)]
  | astray hnext hweb => simp [Hop.not_succeeds (redirects_of_redirected hnext)]
  | @followed left r next status location hops result hnext hweb ht ih =>
    refine ih.trans ?_
    cases hops with
    | nil => simp [Hop.not_succeeds (redirects_of_redirected hnext)]
    | cons hop hops => simp [List.getLast?_cons_cons]

/-! ## Attempts that count -/

/-- The payload of a delivery. -/
def payload (args : WebhookArgs) : String :=
  (WebhookPayload.ofArgs args).toJson.text

/-- The last of some requests was answered with success.  It posted the payload if and only if
every redirection before it repeats the request, and it carried no body if and only if one of them
drops it. -/
structure Counted (payload : String) (before : List Hop) (last : Hop) : Prop where
  succeeds : last.succeeds = true
  redirected : ∀ hop ∈ before, hop.repeats = true ∨ hop.drops = true
  posted : ∀ first, (before ++ [last]).head? = some first → first.request.body = some payload
  delivered_iff : last.request.body = some payload ↔ ∀ hop ∈ before, hop.repeats = true
  bare_iff : last.request.body = none ↔ ∃ hop ∈ before, hop.drops = true

/-- A chain that ends with success counts, and what its last request carried is settled by the
redirections before it. -/
theorem Trail.counted {left : Nat} {url : Url} {payload : String} {before : List Hop} {last : Hop}
    {result : Except Fault Nat}
    (h : Trail left (.posting url payload) (before ++ [last]) result) (hs : last.succeeds = true) :
    Counted payload before last := by
  have hred : ∀ hop ∈ before, hop.repeats = true ∨ hop.drops = true := by
    have hall := h.redirections
    rwa [List.dropLast_concat] at hall
  have hbody : last.request.body = if before.any Hop.drops then none else some payload :=
    h.body before last [] rfl
  have hany : before.any Hop.drops = true ↔ ∃ hop ∈ before, hop.drops = true := List.any_eq_true
  -- Every reply before the last is a redirection of one of the two kinds, so none drops the body
  -- exactly if all repeat the request.
  have hrepeats : (∀ hop ∈ before, hop.repeats = true) ↔ before.any Hop.drops = false := by
    rw [List.any_eq_false]
    constructor
    · intro hall hop hmem
      rw [(Hop.repeats_iff (hred hop hmem)).1 (hall hop hmem)]
      exact Bool.false_ne_true
    · intro hnone hop hmem
      exact (Hop.repeats_iff (hred hop hmem)).2 (eq_false_of_ne_true (hnone hop hmem))
  refine ⟨hs, hred, ?_, ?_, ?_⟩
  · intro first hfirst
    obtain ⟨rest, hrest⟩ : ∃ rest, before ++ [last] = first :: rest :=
      List.head?_eq_some_iff.1 hfirst
    exact h.body [] first rest hrest
  · rw [hrepeats, hbody]
    cases before.any Hop.drops <;> simp
  · rw [← hany, hbody]
    cases before.any Hop.drops <;> simp

/-- A delivery sends what posting sends, and succeeds where the last status is one of success. -/
theorem deliver_spec (args : WebhookArgs) (p : Peer) :
    (deliver args p).2 = (post args.uri (payload args) p).2 ∧
      ((deliver args p).1 = .ok () ↔
        ∃ status, (post args.uri (payload args) p).1 = .ok status ∧ isSuccess status = true) := by
  unfold deliver payload
  rcases post args.uri (WebhookPayload.ofArgs args).toJson.text p with ⟨_ | status, p'⟩
  · simp
  · cases hs : isSuccess status <;> simp [hs]

/-- An attempt that is not cancelled sends what its delivery sends, and counts if that succeeds. -/
theorem execute_spec {job : Job} {args : WebhookArgs}
    (hargs : job.readArgs WebhookArgs.arguments = .ok args) (p : Peer) :
    (execute job false p).2 = (deliver args p).2 ∧
      ((execute job false p).1 = .success none ↔ (deliver args p).1 = .ok ()) ∧
      ∀ output, (execute job false p).1 = .success output → output = none := by
  unfold execute
  rw [hargs]
  dsimp only
  rcases deliver args p with ⟨reason | u, p'⟩ <;> simp

/-- What an attempt posts: the first request of its chain carries the payload, and no request
carries anything else. -/
theorem execute_posts {job : Job} {args : WebhookArgs}
    (hargs : job.readArgs WebhookArgs.arguments = .ok args) (cancelled : Bool) (p : Peer) :
    ∃ hops, Hears p hops (execute job cancelled p).2 ∧
      (∀ first, hops.head? = some first → first.request.body = some (payload args)) ∧
      ∀ hop ∈ hops, ∀ body, hop.request.body = some body → body = payload args := by
  cases cancelled with
  | true => exact ⟨[], by simpa [execute, hargs] using hears_nothing p, by simp, by simp⟩
  | false =>
    have hsent : (execute job false p).2 = (post args.uri (payload args) p).2 :=
      (execute_spec hargs p).1.trans (deliver_spec args p).1
    -- Whatever is carried on the way was posted in the first place.
    obtain ⟨hops, hh, ⟨rfl, -⟩ | ⟨-, url, -, ht⟩⟩ := trail_of_post args.uri (payload args) p
    · exact ⟨[], hsent ▸ hh, by simp, by simp⟩
    · refine ⟨hops, hsent ▸ hh, ?_, ?_⟩
      · intro first hfirst
        obtain ⟨rest, hrest⟩ := List.head?_eq_some_iff.1 hfirst
        exact ht.body [] first rest hrest
      · intro hop hmem body hbody
        obtain ⟨before, after, hsplit⟩ := List.append_of_mem hmem
        rw [ht.body before hop after hsplit] at hbody
        split at hbody
        · exact nomatch hbody
        · exact (Option.some.inj hbody).symm

/-- The chain of a delivery: it succeeds if and only if the chain ends with success, and then what
its last request carried is settled. -/
theorem counted_of_post (address payload : String) (p : Peer) :
    ∃ hops, Hears p hops (post address payload p).2 ∧
      ((∃ status, (post address payload p).1 = .ok status ∧ isSuccess status = true) ↔
        ∃ before last, hops = before ++ [last] ∧ Counted payload before last) := by
  obtain ⟨hops, hh, ⟨rfl, -, fault, hfault⟩ | ⟨-, url, -, ht⟩⟩ := trail_of_post address payload p
  · -- Nothing was sent, so nothing was answered.
    refine ⟨[], hh, ?_⟩
    rw [hfault]
    simp
  · refine ⟨hops, hh, ht.ok_iff.trans ?_⟩
    constructor
    · rintro ⟨last, hlast, hs⟩
      obtain ⟨before, rfl⟩ := List.getLast?_eq_some_iff.1 hlast
      exact ⟨before, last, rfl, ht.counted hs⟩
    · rintro ⟨before, last, rfl, hcounted⟩
      exact ⟨last, List.getLast?_concat, hcounted.succeeds⟩

/-- **What a counted delivery delivered.**  An attempt counts as a delivery if and only if the last
of its requests was answered with success; and the one who answered has got the payload if and only
if no redirection on the way has dropped it. -/
theorem success_iff_counted (job : Job) (cancelled : Bool) (p : Peer) :
    ∃ hops, Hears p hops (execute job cancelled p).2 ∧
      ((∃ output, (execute job cancelled p).1 = .success output) ↔
        ∃ args before last, job.readArgs WebhookArgs.arguments = .ok args ∧
          cancelled = false ∧ hops = before ++ [last] ∧ Counted (payload args) before last) := by
  cases hargs : job.readArgs WebhookArgs.arguments with
  | error e => exact ⟨[], by simpa [execute, hargs] using hears_nothing p, by simp [execute, hargs]⟩
  | ok args =>
    cases cancelled with
    | true => exact ⟨[], by simpa [execute, hargs] using hears_nothing p, by simp [execute, hargs]⟩
    | false =>
      obtain ⟨hsent, hcounts, hempty⟩ := execute_spec hargs p
      obtain ⟨hposted, hsucceeds⟩ := deliver_spec args p
      obtain ⟨hops, hh, hiff⟩ := counted_of_post args.uri (payload args) p
      -- An attempt at a delivery never hands over an output.
      have hnone : (∃ output, (execute job false p).1 = .success output) ↔
          (execute job false p).1 = .success none := by
        constructor
        · rintro ⟨output, hout⟩
          rw [hout, hempty output hout]
        · exact fun hout => ⟨none, hout⟩
      refine ⟨hops, hsent ▸ hposted ▸ hh,
        hnone.trans (hcounts.trans (hsucceeds.trans (hiff.trans ?_)))⟩
      simp

end

/-! ## A delivery that delivered nothing -/

/-- A client wants to be told of an error. -/
def notice : WebhookArgs :=
  ⟨"http://a/hook", none, Uuid.ofCount 2, .error "boom"⟩

/-- The job that tells it. -/
def noticeJob : Job where
  id := Uuid.ofCount 1
  kind := .webhook
  state := .running
  args := notice.toJson.sorted
  output := none
  errors := []
  attempt := 1
  maxAttempts := 25
  createdAt := ⟨0, 0⟩
  scheduledAt := ⟨0, 0⟩
  attemptedAt := some ⟨0, 0⟩
  finalizedAt := none

/-- Its endpoint sends every request on to another page. -/
def elsewhere : Peer where
  reachable := true
  replies := [.answer 303 (some "/other"), .answer 200 none]

/-- **An attempt may count without a delivery**: the one who answers with success was asked for
something and given nothing, and the one who was given the payload had sent it on. -/
theorem success_without_payload :
    noticeJob.readArgs WebhookArgs.arguments = .ok notice ∧
      (execute noticeJob false elsewhere).1 = .success none ∧
      ∃ first last, Hears elsewhere [first, last] (execute noticeJob false elsewhere).2 ∧
        first.request.body = some (payload notice) ∧ first.reply = .answer 303 (some "/other") ∧
        last.request.body = none ∧ last.reply = .answer 200 none := by
  have hargs : noticeJob.readArgs WebhookArgs.arguments = .ok notice :=
    WebhookArgs.readArgs_of_stored (Outcome.restores fun v hv => by cases hv) rfl rfl
  have hposted : (post notice.uri (payload notice) elsewhere).1 = .ok 200 :=
    Except.ok_of_toOption (by decide +kernel)
  have hseen : (post notice.uri (payload notice) elsewhere).2.seen.map Outgoing.body =
      [some (payload notice), none] := by
    decide +kernel
  obtain ⟨hsent, hdelivered⟩ := deliver_spec notice elsewhere
  obtain ⟨hexecuted, hcounts, -⟩ := execute_spec hargs elsewhere
  obtain ⟨hops, hh, -⟩ := counted_of_post notice.uri (payload notice) elsewhere
  refine ⟨hargs, hcounts.2 (hdelivered.2 ⟨200, hposted, by decide⟩), ?_⟩
  rw [hexecuted, hsent]
  -- Two requests were seen, and they got the two replies of the script.
  rw [hh.seen, List.map_append, List.map_map] at hseen
  match hops, hh, hseen with
  | [first, last], hh, hseen =>
    have hbodies : first.request.body = some (payload notice) ∧ last.request.body = none := by
      simpa [elsewhere] using hseen
    have hreplies : first.reply = .answer 303 (some "/other") ∧ last.reply = .answer 200 none := by
      simpa [elsewhere, given] using hh.replies
    exact ⟨first, last, hh, hbodies.1, hreplies.1, hbodies.2, hreplies.2⟩
  | [], hh, hseen => simp [elsewhere] at hseen
  | [_], hh, hseen => simp [elsewhere] at hseen
  | _ :: _ :: _ :: _, hh, hseen => simp [elsewhere] at hseen

end VideoProbe.Delivery
