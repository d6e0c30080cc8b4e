import ClusterSteward.Slot.Share

/-!
# Dividing the keyspace

How the share of each node and the slots left over make up the keyspace. Both are computed from the
low word of the number of nodes, and are undefined when that is zero. Main statements:
`perNode_eq_error_iff`, and `divided`, by which share and remainder are exact for every number of
nodes that a count word holds, and for a larger one only if its shares are empty.
-/

namespace ClusterSteward.Share

variable {nodes share rest : Nat}

/-! ## Parts of the keyspace -/

/-- A part of the keyspace that is computed from a number of nodes, narrowed to a count word. It is
zero without nodes, and undefined for other numbers that are narrowed to zero. -/
def portion (fault : Fault) (part : Nat → Nat) (nodes : Nat) : Counted Nat :=
  if nodes = 0 then .ok 0
  else if narrowed nodes = 0 then .error fault
  else .ok (part (narrowed nodes))

/-- A share is such a part. -/
theorem perNode_eq_portion (nodes : Nat) :
    perNode nodes = portion .divisionByZero (keyspace / ·) nodes :=
  rfl

/-- So is the remainder. -/
theorem remainder_eq_portion (nodes : Nat) :
    remainder nodes = portion .remainderByZero (keyspace % ·) nodes :=
  rfl

variable {fault : Fault} {part : Nat → Nat}

/-- A part is undefined for a positive number of nodes that is narrowed to zero. -/
theorem portion_eq_error_iff {error : Fault} :
    portion fault part nodes = .error error ↔ error = fault ∧ nodes ≠ 0 ∧ countLimit ∣ nodes := by
  have hdvd : countLimit ∣ nodes ↔ narrowed nodes = 0 := Nat.dvd_iff_mod_eq_zero
  rw [portion, hdvd]
  split
  next hzero => simp [hzero]
  next hne =>
    split
    next hnarrowed => simp [hne, hnarrowed, eq_comm]
    next hnarrowed => simp [hnarrowed]

/-- For any other positive number of nodes, the part is that of its low word. -/
theorem portion_eq_ok (hpos : 0 < nodes) (hdvd : ¬ countLimit ∣ nodes) :
    portion fault part nodes = .ok (part (narrowed nodes)) := by
  have hnarrowed : narrowed nodes ≠ 0 := fun hzero => hdvd (Nat.dvd_of_mod_eq_zero hzero)
  rw [portion, if_neg (Nat.ne_of_gt hpos), if_neg hnarrowed]

/-- A share is undefined for a positive number of nodes that is narrowed to zero. -/
theorem perNode_eq_error_iff :
    perNode nodes = .error fault ↔ fault = .divisionByZero ∧ nodes ≠ 0 ∧ countLimit ∣ nodes := by
  rw [perNode_eq_portion, portion_eq_error_iff]

/-- So is the remainder. -/
theorem remainder_eq_error_iff :
    remainder nodes = .error fault ↔
      fault = .remainderByZero ∧ nodes ≠ 0 ∧ countLimit ∣ nodes := by
  rw [remainder_eq_portion, portion_eq_error_iff]

/-- No share is more than the keyspace. -/
theorem le_keyspace_of_perNode (h : perNode nodes = .ok share) : share ≤ keyspace := by
  rw [perNode] at h
  split at h
  next =>
    obtain rfl := Except.ok.inj h
    exact Nat.zero_le _
  next =>
    split at h
    next => cases h
    next =>
      obtain rfl := Except.ok.inj h
      exact Nat.div_le_self _ _

/-! ## Exact division -/

/-- The shares of all nodes and the slots left over make up the keyspace, and fewer slots are left
over than there are nodes. -/
structure Division (nodes share rest : Nat) : Prop where
  total_eq : nodes * share + rest = keyspace
  rest_lt : rest < nodes

/-- The quotient and the remainder divide the keyspace. -/
theorem division_div_mod (hpos : 0 < nodes) :
    Division nodes (keyspace / nodes) (keyspace % nodes) :=
  ⟨Nat.div_add_mod keyspace nodes, Nat.mod_lt keyspace hpos⟩

/-- More nodes than there are slots have empty shares. -/
theorem Division.of_lt (h : Division nodes share rest) (hlt : keyspace < nodes) :
    share = 0 ∧ rest = keyspace := by
  obtain ⟨htotal, -⟩ := h
  have hshare : share = 0 := by
    refine (Nat.eq_zero_or_pos share).resolve_right fun hpos => ?_
    have hle : nodes ≤ nodes * share := Nat.le_mul_of_pos_right nodes hpos
    omega
  rw [hshare, Nat.mul_zero, Nat.zero_add] at htotal
  exact ⟨hshare, htotal⟩

/-- The share and the remainder of the number of nodes are defined and divide the keyspace. -/
def Exact (nodes : Nat) : Prop :=
  ∃ share rest, perNode nodes = .ok share ∧ remainder nodes = .ok rest ∧ Division nodes share rest

/-- How a number of nodes divides the keyspace. -/
structure Divided (nodes : Nat) : Prop where
  /-- A share is undefined for the multiples of the size of a count word. -/
  perNode_faults : ∀ fault, perNode nodes = .error fault ↔
    fault = .divisionByZero ∧ countLimit ∣ nodes
  /-- So is the remainder. -/
  remainder_faults : ∀ fault, remainder nodes = .error fault ↔
    fault = .remainderByZero ∧ countLimit ∣ nodes
  /-- Any other number divides the keyspace as its low word does. -/
  low : ¬ countLimit ∣ nodes → ∃ share rest, perNode nodes = .ok share ∧
    remainder nodes = .ok rest ∧ Division (nodes % countLimit) share rest
  /-- It divides the keyspace exactly when it is its own low word, or when the low word makes all
  shares empty. -/
  exact_iff : Exact nodes ↔ nodes < countLimit ∨ keyspace < nodes % countLimit
  /-- Nothing but the remainder is left when a count word of nodes outnumbers the slots. -/
  scarce : nodes < countLimit → keyspace < nodes →
    perNode nodes = .ok 0 ∧ remainder nodes = .ok keyspace

/-- The low word of a number of nodes divides the keyspace. -/
theorem division_low (hpos : 0 < nodes) (hdvd : ¬ countLimit ∣ nodes) :
    ∃ share rest, perNode nodes = .ok share ∧ remainder nodes = .ok rest ∧
      Division (nodes % countLimit) share rest := by
  have hlow : 0 < nodes % countLimit :=
    Nat.pos_of_ne_zero fun hzero => hdvd (Nat.dvd_of_mod_eq_zero hzero)
  rw [perNode_eq_portion, remainder_eq_portion]
  exact ⟨_, _, portion_eq_ok hpos hdvd, portion_eq_ok hpos hdvd, division_div_mod hlow⟩

/-- Division is exact for a positive number of nodes that is its own low word, and for one whose
low word makes all shares empty. -/
theorem exact_iff (hpos : 0 < nodes) :
    Exact nodes ↔ nodes < countLimit ∨ keyspace < nodes % countLimit := by
  constructor
  · rintro ⟨share, rest, hshare, hrest, hexact⟩
    have hdvd : ¬ countLimit ∣ nodes := by
      intro hdvd
      rw [perNode_eq_error_iff.2 ⟨rfl, Nat.ne_of_gt hpos, hdvd⟩] at hshare
      cases hshare
    obtain ⟨lowShare, lowRest, hlowShare, hlowRest, hlow⟩ := division_low hpos hdvd
    obtain rfl := Except.ok.inj (hshare.symm.trans hlowShare)
    obtain rfl := Except.ok.inj (hrest.symm.trans hlowRest)
    -- both numbers leave the same total for the same shares
    have hsame : nodes * share = nodes % countLimit * share :=
      Nat.add_right_cancel (hexact.total_eq.trans hlow.total_eq.symm)
    rcases Nat.eq_zero_or_pos share with rfl | hshares
    · have hrest := hlow.total_eq
      rw [Nat.mul_zero, Nat.zero_add] at hrest
      exact .inr (hrest ▸ hlow.rest_lt)
    · have heq : nodes = nodes % countLimit := Nat.eq_of_mul_eq_mul_right hshares hsame
      exact .inl (heq ▸ Nat.mod_lt nodes (by decide))
  · intro h
    have hdvd : ¬ countLimit ∣ nodes := by
      intro hdvd
      rcases h with hlt | hlow
      · exact Nat.not_le.2 hlt (Nat.le_of_dvd hpos hdvd)
      · rw [Nat.mod_eq_zero_of_dvd hdvd] at hlow
        exact Nat.not_lt_zero _ hlow
    obtain ⟨share, rest, hshare, hrest, hlow⟩ := division_low hpos hdvd
    refine ⟨share, rest, hshare, hrest, ?_⟩
    rcases h with hlt | hscarce
    · rwa [Nat.mod_eq_of_lt hlt] at hlow
    · obtain ⟨rfl, rfl⟩ := hlow.of_lt hscarce
      exact ⟨by rw [Nat.mul_zero, Nat.zero_add],
        Nat.lt_of_lt_of_le hscarce (Nat.mod_le nodes countLimit)⟩

/-- A positive number of nodes divides the keyspace exactly as long as a count word holds it.
Narrowing makes a larger one divide as its low word does, or not at all. -/
theorem divided (hpos : 0 < nodes) : Divided nodes where
  perNode_faults fault := by
    rw [perNode_eq_error_iff, and_iff_right (Nat.ne_of_gt hpos)]
  remainder_faults fault := by
    rw [remainder_eq_error_iff, and_iff_right (Nat.ne_of_gt hpos)]
  low := division_low hpos
  exact_iff := exact_iff hpos
  scarce hlt hscarce := by
    obtain ⟨share, rest, hshare, hrest, hdivision⟩ := (exact_iff hpos).2 (.inl hlt)
    obtain ⟨rfl, rfl⟩ := hdivision.of_lt hscarce
    exact ⟨hshare, hrest⟩

/-- Three nodes beyond a count word divide the keyspace as three nodes do. -/
theorem divided_three :
    0 < 4294967299 ∧ Divided 4294967299 ∧ perNode 4294967299 = .ok 5461 ∧
      remainder 4294967299 = .ok 1 :=
  ⟨by decide, divided (by decide), rfl, rfl⟩

/-- The number of values of a count word leaves the share and the remainder undefined, and one node
more gets the whole keyspace for each. -/
theorem not_exact_word :
    (¬ Exact 4294967296 ∧ perNode 4294967296 = .error .divisionByZero ∧
        remainder 4294967296 = .error .remainderByZero) ∧
      ¬ Exact 4294967297 ∧ perNode 4294967297 = .ok 16384 ∧ remainder 4294967297 = .ok 0 := by
  have hundefined : perNode 4294967296 = .error .divisionByZero := rfl
  have hwhole : perNode 4294967297 = .ok 16384 := rfl
  refine ⟨⟨?_, hundefined, rfl⟩, ?_, hwhole, rfl⟩
  · rintro ⟨share, rest, hshare, -⟩
    rw [hundefined] at hshare
    cases hshare
  · rintro ⟨share, rest, hshare, -, htotal, -⟩
    obtain rfl := Except.ok.inj (hwhole.symm.trans hshare)
    rw [keyspace] at htotal
    omega

end ClusterSteward.Share
