/-
Writing call by call.

A buffer outlives its failures: its callers go on, with bytes offered once and with bytes
offered until none is left. A call puts all of its bytes at the end (`Call.Takes`), or it
changes nothing and its caller hears the capacity (`Call.Refuses`). The room that is left
decides between the two, and the kind of the call plays no part in it. What a buffer holds
after a list of calls follows by induction on the list: the bytes of the calls that
succeeded, in their order (`content_after`).
-/
import ModelProtection.Proofs.Buffer

set_option autoImplicit false

namespace ModelProtection

namespace Buffer

namespace Call

/-- What the caller hears. -/
def answer (c : Call) (b : Buffer) : Except WriteFault Receipt := (c.run b).1

/-- The buffer that the call leaves. -/
def next (c : Call) (b : Buffer) : Buffer := (c.run b).2

/-- What the caller hears of bytes that are taken. -/
def receipt : Call → Receipt
  | offer data => .taken data.length
  | offerAll _ => .done

/-- All bytes of the call are taken. -/
structure Takes (c : Call) (b : Buffer) : Prop where
  answer_eq : c.answer b = .ok c.receipt
  content_eq : (c.next b).content = b.content ++ c.data
  capacity_eq : (c.next b).capacity = b.capacity

/-- No byte of the call is taken. -/
structure Refuses (c : Call) (b : Buffer) : Prop where
  answer_eq : c.answer b = .error (.full ⟨b.capacity⟩)
  next_eq : c.next b = b

end Call

/-- The buffer after a list of calls. -/
def after (b : Buffer) (calls : List Call) : Buffer :=
  calls.foldl (fun b c => c.next b) b

/-- The calls of a list that succeed. -/
def accepted : Buffer → List Call → List Call
  | _, [] => []
  | b, c :: calls =>
    match c.answer b with
    | .ok _ => c :: accepted (c.next b) calls
    | .error _ => accepted (c.next b) calls

/-! ## One call -/

variable {b : Buffer} {c : Call} {data : Bytes}

theorem offer_of_le (h : data.length ≤ b.remaining) :
    ∃ b', b.offer data = (.ok data.length, b') ∧ b'.content = b.content ++ data
      ∧ b'.capacity = b.capacity := by
  have hroom := size_add_remaining b
  have hfit : b.size + data.length ≤ b.capacity := by omega
  obtain ⟨b', hwrite, hcontent, hcapacity, -⟩ := write_of_le hfit
  refine ⟨b', ?_, hcontent, hcapacity⟩
  rw [offer, hwrite]

theorem offer_of_lt (h : b.remaining < data.length) :
    b.offer data = (.error (.full ⟨b.capacity⟩), b) := by
  have hroom := size_add_remaining b
  rw [offer, write_of_lt (by omega)]

theorem offerAll_nil (b : Buffer) : b.offerAll [] = (.ok (), b) := by
  rw [offerAll, if_pos rfl]

/-- Bytes that fit are taken at the first offer, so that there is no second one. -/
theorem offerAll_of_le (h : data.length ≤ b.remaining) :
    ∃ b', b.offerAll data = (.ok (), b') ∧ b'.content = b.content ++ data
      ∧ b'.capacity = b.capacity := by
  cases data with
  | nil => exact ⟨b, offerAll_nil b, (List.append_nil _).symm, rfl⟩
  | cons byte rest =>
    obtain ⟨b', hoffer, hcontent, hcapacity⟩ := offer_of_le h
    refine ⟨b', ?_, hcontent, hcapacity⟩
    have hleft : (byte :: rest).drop (rest.length + 1) = [] := List.drop_length
    rw [offerAll, if_neg (List.cons_ne_nil byte rest), hoffer, List.length_cons]
    dsimp only
    rw [hleft, offerAll_nil]

/-- Bytes that do not fit are refused at the first offer, and nothing was taken before it. -/
theorem offerAll_of_lt (h : b.remaining < data.length) :
    b.offerAll data = (.error (.full ⟨b.capacity⟩), b) := by
  have hdata : data ≠ [] := List.ne_nil_of_length_pos (Nat.zero_lt_of_lt h)
  rw [offerAll, if_neg hdata, offer_of_lt h]

namespace Call

theorem Takes.of_run {b' : Buffer} (hrun : c.run b = (.ok c.receipt, b'))
    (hcontent : b'.content = b.content ++ c.data) (hcapacity : b'.capacity = b.capacity) :
    c.Takes b where
  answer_eq := by rw [answer, hrun]
  content_eq := by rw [next, hrun, hcontent]
  capacity_eq := by rw [next, hrun, hcapacity]

theorem Refuses.of_run (hrun : c.run b = (.error (.full ⟨b.capacity⟩), b)) : c.Refuses b where
  answer_eq := by rw [answer, hrun]
  next_eq := by rw [next, hrun]

/-- A call whose bytes fit takes them, whichever kind of call it is. -/
theorem takes_of_le (h : c.data.length ≤ b.remaining) : c.Takes b := by
  cases c with
  | offer data =>
    have hfit : data.length ≤ b.remaining := h
    obtain ⟨b', hoffer, hcontent, hcapacity⟩ := offer_of_le hfit
    refine Takes.of_run ?_ hcontent hcapacity
    rw [run, hoffer]
    rfl
  | offerAll data =>
    have hfit : data.length ≤ b.remaining := h
    obtain ⟨b', hoffer, hcontent, hcapacity⟩ := offerAll_of_le hfit
    refine Takes.of_run ?_ hcontent hcapacity
    rw [run, hoffer]
    rfl

/-- A call whose bytes do not fit takes none of them, whichever kind of call it is. -/
theorem refuses_of_lt (h : b.remaining < c.data.length) : c.Refuses b := by
  cases c with
  | offer data =>
    have hlong : b.remaining < data.length := h
    have hoffer := offer_of_lt hlong
    refine Refuses.of_run ?_
    rw [run, hoffer]
    rfl
  | offerAll data =>
    have hlong : b.remaining < data.length := h
    have hoffer := offerAll_of_lt hlong
    refine Refuses.of_run ?_
    rw [run, hoffer]
    rfl

theorem takes_or_refuses (c : Call) (b : Buffer) : c.Takes b ∨ c.Refuses b :=
  (Nat.lt_or_ge b.remaining c.data.length).elim (fun h => .inr (refuses_of_lt h))
    (fun h => .inl (takes_of_le h))

theorem capacity_next (c : Call) (b : Buffer) : (c.next b).capacity = b.capacity := by
  obtain htakes | hrefuses := c.takes_or_refuses b
  · exact htakes.capacity_eq
  · rw [hrefuses.next_eq]

theorem Takes.accepted_cons (h : c.Takes b) (calls : List Call) :
    b.accepted (c :: calls) = c :: (c.next b).accepted calls := by
  rw [accepted, h.answer_eq]

theorem Refuses.accepted_cons (h : c.Refuses b) (calls : List Call) :
    b.accepted (c :: calls) = b.accepted calls := by
  rw [accepted, h.answer_eq, h.next_eq]

end Call

/-! ## Many calls -/

theorem after_cons (b : Buffer) (c : Call) (calls : List Call) :
    b.after (c :: calls) = (c.next b).after calls := List.foldl_cons ..

theorem capacity_after (b : Buffer) (calls : List Call) :
    (b.after calls).capacity = b.capacity := by
  induction calls generalizing b with
  | nil => rfl
  | cons c calls ih => rw [after_cons, ih, c.capacity_next]

/-- What is written is what the calls that succeeded gave, in their order. -/
theorem content_after (b : Buffer) (calls : List Call) :
    (b.after calls).content = b.content ++ (b.accepted calls).flatMap Call.data := by
  -- a call that is refused shows neither in the buffer nor among the calls that succeeded
  induction calls generalizing b with
  | nil => exact (List.append_nil _).symm
  | cons c calls ih =>
    rw [after_cons, ih]
    obtain htakes | hrefuses := c.takes_or_refuses b
    · rw [htakes.accepted_cons, htakes.content_eq, List.flatMap_cons, List.append_assoc]
    · rw [hrefuses.accepted_cons, hrefuses.next_eq]

end Buffer

/-- **A buffer holds what its successful calls gave it.** Every capacity up to the limit can be
reserved. After any list of calls, with failures among them, the buffer holds the bytes of the calls that
succeeded, in their order, and these and the room that is left make up the capacity. The next call
puts all of its bytes at the end if they fit. Otherwise its caller hears the capacity, and the buffer is
what it was. -/
theorem buffer_holds_accepted_calls (capacity : Nat) (hcapacity : capacity ≤ Buffer.mostCapacity) :
    ∃ b, Buffer.reserve capacity = .ok b ∧ ∀ past : List Buffer.Call,
      let now := b.after past
      now.content = (b.accepted past).flatMap Buffer.Call.data
        ∧ now.capacity = capacity ∧ now.size = now.content.length
        ∧ now.size ≤ capacity ∧ now.size + now.remaining = capacity
        ∧ ∀ c : Buffer.Call,
          (c.data.length ≤ now.remaining →
            c.answer now = .ok c.receipt ∧ (c.next now).content = now.content ++ c.data)
          ∧ (now.remaining < c.data.length →
            c.answer now = .error (.full ⟨capacity⟩) ∧ c.next now = now) := by
  refine ⟨_, Buffer.reserve_of_le hcapacity, ?_⟩
  intro past now
  have hnow : now.capacity = capacity := Buffer.capacity_after _ past
  have hcontent : now.content = _ := Buffer.content_after _ past
  refine ⟨?_, hnow, now.length_content.symm, ?_, ?_, ?_⟩
  · rw [hcontent]
    rfl
  · rw [← hnow]
    exact now.size_le
  · rw [← hnow]
    exact now.size_add_remaining
  · intro c
    refine ⟨?_, ?_⟩
    · intro hfit
      have htakes : c.Takes now := Buffer.Call.takes_of_le hfit
      exact ⟨htakes.answer_eq, htakes.content_eq⟩
    · intro hlong
      have hrefuses : c.Refuses now := Buffer.Call.refuses_of_lt hlong
      refine ⟨?_, hrefuses.next_eq⟩
      rw [hrefuses.answer_eq, hnow]

/-- A buffer for four bytes takes two, refuses five and is filled by two more. From then on only a call
without bytes succeeds. -/
theorem buffer_holds_accepted_calls_sample :
    ∃ b, Buffer.reserve 4 = .ok b ∧
      let now := b.after [.offer [1, 2], .offerAll [3, 4, 5, 6, 7], .offer [], .offerAll [8, 9]]
      now.content = [1, 2, 8, 9] ∧ now.remaining = 0
        ∧ Buffer.Call.answer (.offerAll []) now = .ok .done
        ∧ Buffer.Call.answer (.offer [10]) now = .error (.full ⟨4⟩)
        ∧ Buffer.Call.next (.offer [10]) now = now := by
  obtain ⟨b, hreserve, hruns⟩ := buffer_holds_accepted_calls 4 (by decide)
  refine ⟨b, hreserve, ?_⟩
  intro now
  obtain ⟨hcontent, -, hsize, -, hroom, hnext⟩ :=
    hruns [.offer [1, 2], .offerAll [3, 4, 5, 6, 7], .offer [], .offerAll [8, 9]]
  rw [Buffer.reserve_of_le (by decide)] at hreserve
  cases hreserve
  have haccepted : Buffer.accepted ⟨4, [], 0, rfl, Nat.zero_le 4⟩
      [.offer [1, 2], .offerAll [3, 4, 5, 6, 7], .offer [], .offerAll [8, 9]]
        = [.offer [1, 2], .offer [], .offerAll [8, 9]] := by decide +kernel
  have hheld : now.content = [1, 2, 8, 9] := by
    rw [hcontent, haccepted]
    rfl
  have hfull : now.remaining = 0 := by
    have hfour : now.size = 4 := by rw [hsize, hheld]; rfl
    have htotal : now.size + now.remaining = 4 := hroom
    omega
  obtain ⟨hdone, -⟩ := (hnext (.offerAll [])).1 (Nat.zero_le _)
  obtain ⟨hrefused, hkept⟩ := (hnext (.offer [10])).2 (by rw [hfull]; decide)
  exact ⟨hheld, hfull, hdone, hrefused, hkept⟩

end ModelProtection
