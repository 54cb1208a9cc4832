import IssuanceCheck.Ip
import IssuanceCheck.Proofs.Text.Digits
import IssuanceCheck.Proofs.Text.Joined
import Mathlib.Data.List.TakeWhile

namespace IssuanceCheck

open Text

theorem mapM_map_of_inverse {α β : Type} {f : α → β} {g : β → Option α} {l : List α}
    (h : ∀ a ∈ l, g (f a) = some a) : (l.map f).mapM g = some l := by
  induction l with
  | nil => rfl
  | cons a l ih =>
      rw [List.map_cons, List.mapM_cons, h a List.mem_cons_self,
        ih fun b hb => h b (List.mem_cons_of_mem a hb)]
      rfl

theorem forall_of_mapM {α β : Type} {f : α → Option β} {l : List α} {m : List β}
    (h : l.mapM f = some m) : ∀ a ∈ l, ∃ b, f a = some b := by
  induction l generalizing m with
  | nil => simp
  | cons a l ih =>
      rw [List.mapM_cons] at h
      obtain ⟨b, hb, h⟩ := Option.bind_eq_some_iff.1 h
      obtain ⟨m', hm', -⟩ := Option.bind_eq_some_iff.1 h
      exact List.forall_mem_cons.2 ⟨⟨b, hb⟩, ih hm'⟩

namespace Ipv4

variable {a : Ipv4} {cs : List Char} {n : Nat} {c : Char}

theorem octet?_digits (h : n < 256) : octet? (Decimal.digits n) = some n := by
  have hlength : (Decimal.digits n).length ≤ 3 :=
    Decimal.length_digits_le (show n < 10 ^ (2 + 1) by omega)
  have hzero : ¬(1 < (Decimal.digits n).length ∧ (Decimal.digits n).head? = some '0') := by
    rintro ⟨hlong, hhead⟩
    exact absurd (Decimal.length_digits_of_head? hhead) (Nat.ne_of_gt hlong)
  rw [octet?, if_neg, Decimal.readDigits?_digits, Option.filter_some, if_pos (by simpa using h)]
  simp only [Bool.or_eq_true, Bool.and_eq_true, decide_eq_true_eq, beq_iff_eq]
  exact not_or.2 ⟨hzero, Nat.not_lt.2 hlength⟩

theorem octets_lt (a : Ipv4) : ∀ o ∈ a.octets, o < 256 := by
  have hbits := a.bits.toNat_lt
  simp only [octets, List.forall_mem_cons]
  exact ⟨by omega, by omega, by omega, by omega, fun _ h => absurd h List.not_mem_nil⟩

theorem ofOctets_octets (a : Ipv4) : ofOctets a.octets = a := by
  have hbits := a.bits.toNat_lt
  have hvalue : a.octets.foldl (fun n o => n * 256 + o) 0 = a.bits.toNat := by
    simp only [octets, List.foldl_cons, List.foldl_nil]
    omega
  rw [ofOctets, hvalue, ofNat, UInt32.ofNat_toNat]

theorem splitOn_chars (a : Ipv4) : a.chars.splitOn '.' = a.octets.map Decimal.digits := by
  refine splitOn_joinWith (fun t ht hdot => ?_) (by simp [octets])
  obtain ⟨o, -, rfl⟩ := List.mem_map.1 ht
  exact absurd (Decimal.isDigit_of_mem_digits hdot) (by decide)

theorem ofChars?_chars (a : Ipv4) : ofChars? a.chars = some a := by
  rw [ofChars?, splitOn_chars]
  simp only [List.length_map]
  rw [if_pos (by rfl), mapM_map_of_inverse fun o ho => octet?_digits (octets_lt a o ho),
    Option.map_some, ofOctets_octets]

theorem isDigit_of_octet? (h : octet? cs = some n) : ∀ c ∈ cs, c.isDigit = true := by
  rw [octet?] at h
  split at h
  · cases h
  · exact Decimal.isDigit_of_readDigits? (Option.filter_eq_some_iff.1 h).1

theorem isDigit_or_dot_of_ofChars? (h : ofChars? cs = some a) :
    ∀ c ∈ cs, c.isDigit = true ∨ c = '.' := by
  rw [ofChars?] at h
  split at h
  · obtain ⟨octets, hoctets, -⟩ := Option.map_eq_some_iff.1 h
    intro c hc
    rw [← joinWith_splitOn '.' cs] at hc
    rcases mem_joinWith hc with hc | ⟨t, ht, hc⟩
    · exact .inr (List.mem_singleton.1 hc)
    · obtain ⟨o, ho⟩ := forall_of_mapM hoctets t ht
      exact .inl (isDigit_of_octet? ho c hc)
  · cases h

theorem dot_mem_of_ofChars? (h : ofChars? cs = some a) : '.' ∈ cs := by
  refine Decidable.byContradiction fun hdot => ?_
  have hsplit : cs.splitOn '.' = [cs] :=
    splitOn_joinWith (fun t ht => List.mem_singleton.1 ht ▸ hdot)
      (List.cons_ne_nil cs [])
  rw [ofChars?, hsplit] at h
  cases h

theorem ofChars?_eq_none (hc : c ∈ cs) (hdigit : c.isDigit = false) (hdot : c ≠ '.') :
    ofChars? cs = none := by
  refine Option.eq_none_iff_forall_ne_some.2 fun a h => ?_
  rcases isDigit_or_dot_of_ofChars? h c hc with hd | rfl
  · cases hd.symm.trans hdigit
  · exact hdot rfl

end Ipv4

namespace Ipv6

variable {a : Ipv6} {gs : List Nat} {cs t rest : List Char} {g : Nat}

theorem length_toList (a : Ipv6) : a.toList.length = 8 := by
  rw [toList, List.length_map, Vector.length_toList]

theorem toList_lt (a : Ipv6) : ∀ g ∈ a.toList, g < 65536 := by
  intro g hg
  obtain ⟨u, -, rfl⟩ := List.mem_map.1 hg
  exact u.toNat_lt

theorem ofList_toList (a : Ipv6) : ofList a.toList = a := by
  obtain ⟨groups⟩ := a
  rw [ofList, Ipv6.mk.injEq]
  refine Vector.ext fun i hi => ?_
  simp [toList]

theorem group?_hexDigits (h : g < 65536) : group? (hexDigits g) = some g := by
  have hlength : (hexDigits g).length ≤ 4 :=
    length_hexDigits_le (show g < 16 ^ (3 + 1) by omega)
  have hdigits : (hexDigits g).all (fun c => (hexDigit? c).isSome) = true :=
    List.all_eq_true.2 fun _ => isSome_of_mem_hexDigits
  rw [group?, hdigits, if_neg, hexNat_hexDigits]
  simpa [hexDigits_ne_nil] using hlength

theorem colon_not_mem_hexDigits (g : Nat) : ':' ∉ hexDigits g :=
  fun h => absurd (isSome_of_mem_hexDigits h) (by decide)

theorem dot_not_mem_hexDigits (g : Nat) : '.' ∉ hexDigits g :=
  fun h => absurd (isSome_of_mem_hexDigits h) (by decide)

theorem splitGap?_append (h : ':' ∉ t) (rest : List Char) :
    splitGap? (t ++ rest) = (splitGap? rest).map fun parts => (t ++ parts.1, parts.2) := by
  induction t with
  | nil => simp
  | cons c t ih =>
      obtain ⟨hc, ht⟩ := not_or.1 (mt List.mem_cons.2 h)
      rw [List.cons_append, splitGap?, ih ht, Option.map_map]
      · rfl
      · rintro _ rfl
        exact absurd rfl hc

theorem splitGap?_colon (h : rest.head? ≠ some ':') :
    splitGap? (':' :: rest) = (splitGap? rest).map fun parts => (':' :: parts.1, parts.2) := by
  rw [splitGap?]
  rintro behind - rfl
  exact h rfl

theorem joinGroups_cons (g g' : Nat) (gs : List Nat) :
    joinGroups (g :: g' :: gs) = hexDigits g ++ ':' :: joinGroups (g' :: gs) := by
  simp [joinGroups, joinWith]

theorem joinGroups_eq_cons (g : Nat) (gs : List Nat) :
    ∃ c behind, joinGroups (g :: gs) = c :: behind ∧ c ≠ ':' := by
  obtain ⟨c, digits, hdigits⟩ := List.exists_cons_of_ne_nil (hexDigits_ne_nil g)
  have hcolon : c ≠ ':' := fun hc => colon_not_mem_hexDigits g (by simp [hdigits, hc])
  cases gs with
  | nil => exact ⟨c, digits, hdigits, hcolon⟩
  | cons g' gs => exact ⟨c, _, by rw [joinGroups_cons, hdigits, List.cons_append], hcolon⟩

theorem splitGap?_joinGroups (gs : List Nat) (rest : List Char) :
    splitGap? (joinGroups gs ++ rest) =
      (splitGap? rest).map fun parts => (joinGroups gs ++ parts.1, parts.2) := by
  -- No colon between two groups has another one behind it, so that a gap can only be in `rest`.
  induction gs with
  | nil => simp [joinGroups, joinWith]
  | cons g gs ih =>
      cases gs with
      | nil => exact splitGap?_append (colon_not_mem_hexDigits g) rest
      | cons g' gs =>
          have hhead : (joinGroups (g' :: gs) ++ rest).head? ≠ some ':' := by
            obtain ⟨c, behind, hjoin, hc⟩ := joinGroups_eq_cons g' gs
            rw [hjoin, List.cons_append, List.head?_cons]
            exact fun he => hc (Option.some.inj he)
          rw [joinGroups_cons, List.append_assoc, List.cons_append,
            splitGap?_append (colon_not_mem_hexDigits g), splitGap?_colon hhead, ih, Option.map_map,
            Option.map_map]
          refine congrArg (Option.map · _) (funext fun parts => ?_)
          simp

theorem splitGap?_no_gap (gs : List Nat) : splitGap? (joinGroups gs) = none := by
  have h := splitGap?_joinGroups gs []
  rwa [List.append_nil] at h

theorem splitGap?_gap (gs : List Nat) (rest : List Char) :
    splitGap? (joinGroups gs ++ [':', ':'] ++ rest) = some (joinGroups gs, rest) := by
  rw [List.append_assoc, splitGap?_joinGroups]
  simp [splitGap?]

theorem splitOn_joinGroups (hne : gs ≠ []) : (joinGroups gs).splitOn ':' = gs.map hexDigits := by
  refine splitOn_joinWith (fun t ht => ?_) (by simpa using hne)
  obtain ⟨g, -, rfl⟩ := List.mem_map.1 ht
  exact colon_not_mem_hexDigits g

theorem ofChars?_hexDigits (g : Nat) : Ipv4.ofChars? (hexDigits g) = none :=
  Option.eq_none_iff_forall_ne_some.2 fun _ h =>
    dot_not_mem_hexDigits g (Ipv4.dot_mem_of_ofChars? h)

theorem groups?_joinGroups (atEnd : Bool) (h : ∀ g ∈ gs, g < 65536) :
    groups? atEnd (joinGroups gs) = some gs := by
  cases gs with
  | nil => rfl
  | cons g gs =>
      have hread : ((g :: gs).map hexDigits).mapM group? = some (g :: gs) :=
        mapM_map_of_inverse fun g hg => group?_hexDigits (h g hg)
      have hlast : ((g :: gs).map hexDigits).getLast?.bind Ipv4.ofChars? = none := by
        refine Option.bind_eq_none_iff.2 fun t ht => ?_
        obtain ⟨g, -, rfl⟩ := List.mem_map.1 (List.mem_of_getLast? ht)
        exact ofChars?_hexDigits g
      obtain ⟨c, behind, hjoin, -⟩ := joinGroups_eq_cons g gs
      have hempty : (joinGroups (g :: gs)).isEmpty = false := by rw [hjoin, List.isEmpty_cons]
      simp only [groups?, hempty, splitOn_joinGroups (List.cons_ne_nil g gs), hlast, ite_self,
        hread, Bool.false_eq_true, if_false]

theorem zeroRun_eq (gs : List Nat) :
    (zeroRun gs).2 = ((gs.drop (zeroRun gs).1).takeWhile (· = 0)).length ∨ (zeroRun gs).2 = 0 := by
  refine List.foldlRecOn (motive := fun run : Nat × Nat =>
    run.2 = ((gs.drop run.1).takeWhile (· = 0)).length ∨ run.2 = 0) (List.range gs.length) _
      (.inr rfl) fun best hbest start _ => ?_
  dsimp only
  split
  · exact .inl rfl
  · exact hbest

theorem eq_around_zeroRun (gs : List Nat) :
    gs.take (zeroRun gs).1 ++ List.replicate (zeroRun gs).2 0 ++
      gs.drop ((zeroRun gs).1 + (zeroRun gs).2) = gs := by
  have hrun : List.replicate (zeroRun gs).2 0 = (gs.drop (zeroRun gs).1).take (zeroRun gs).2 := by
    rcases zeroRun_eq gs with h | h
    · have htake := List.prefix_iff_eq_take.1 (List.takeWhile_prefix (fun g => decide (g = 0))
        (l := gs.drop (zeroRun gs).1))
      rw [← h] at htake
      rw [← htake]
      refine (List.eq_replicate_iff.2 ⟨h.symm, fun g hg => ?_⟩).symm
      simpa using List.mem_takeWhile_imp hg
    · rw [h]
      rfl
  rw [hrun, List.append_assoc, ← List.drop_drop, List.take_append_drop, List.take_append_drop]

theorem ofChars?_groupChars (a : Ipv6) : ofChars? a.groupChars = some a := by
  have hlt := toList_lt a
  have hjoined := eq_around_zeroRun a.toList
  have hlength := length_toList a
  rw [groupChars]
  generalize zeroRun a.toList = run at hjoined
  obtain ⟨start, length⟩ := run
  dsimp only at hjoined ⊢
  split
  next hshort =>
    rw [ofChars?]
    simp only [splitGap?_no_gap, groups?_joinGroups true hlt, Option.filter_some, hlength,
      ofList_toList, decide_true, if_true, Option.map_some]
  next hlong =>
    have hsplit := splitGap?_gap (a.toList.take start)
      (joinGroups (a.toList.drop (start + length)))
    have hbefore : groups? false (joinGroups (a.toList.take start)) = some (a.toList.take start) :=
      groups?_joinGroups false fun g hg => hlt g (List.mem_of_mem_take hg)
    have hafter : groups? true (joinGroups (a.toList.drop (start + length))) =
        some (a.toList.drop (start + length)) :=
      groups?_joinGroups true fun g hg => hlt g (List.mem_of_mem_drop hg)
    have hcount := congrArg List.length hjoined
    simp only [List.length_append, List.length_replicate] at hcount
    have hmissing : 8 - ((a.toList.take start).length + (a.toList.drop (start + length)).length) =
        length := by omega
    have hle : (a.toList.take start).length + (a.toList.drop (start + length)).length ≤ 7 := by
      omega
    rw [ofChars?, hsplit]
    simp only [hbefore, hafter, Option.bind_eq_bind, Option.bind_some, hmissing, hjoined,
      ofList_toList, if_pos hle]

theorem mapped?_eq_some {v4 : Ipv4} (h : a.mapped? = some v4) :
    a.toList = [0, 0, 0, 0, 0, 0xFFFF, v4.bits.toNat / 65536, v4.bits.toNat % 65536] := by
  have hlt := toList_lt a
  rw [mapped?] at h
  split at h
  next high low hgs =>
    simp only [hgs, List.forall_mem_cons] at hlt
    obtain ⟨-, -, -, -, -, -, hhigh, hlow, -⟩ := hlt
    cases h
    have hbits : (Ipv4.ofNat (high * 65536 + low)).bits.toNat = high * 65536 + low :=
      UInt32.toNat_ofNat_of_lt' (by
        show high * 65536 + low < 4294967296
        omega)
    have hdiv : (high * 65536 + low) / 65536 = high := by omega
    have hmod : (high * 65536 + low) % 65536 = low := by omega
    rw [hgs, hbits, hdiv, hmod]
  next => cases h

theorem groups?_mapped (v4 : Ipv4) :
    groups? true (['f', 'f', 'f', 'f'] ++ ':' :: v4.chars) =
      some [0xFFFF, v4.bits.toNat / 65536, v4.bits.toNat % 65536] := by
  have hcolon : ':' ∉ v4.chars := fun h =>
    (Ipv4.isDigit_or_dot_of_ofChars? (Ipv4.ofChars?_chars v4) ':' h).elim
      (fun h => absurd h (by decide)) (fun h => absurd h (by decide))
  have hsplit : (['f', 'f', 'f', 'f'] ++ ':' :: v4.chars).splitOn ':' =
      [['f', 'f', 'f', 'f'], v4.chars] := by
    have htexts : ∀ t ∈ [['f', 'f', 'f', 'f'], v4.chars], ':' ∉ t := by simp [hcolon]
    exact splitOn_joinWith htexts (List.cons_ne_nil _ _)
  have hfront : ([['f', 'f', 'f', 'f'], v4.chars].dropLast).mapM group? = some [0xFFFF] := rfl
  have hlast : [['f', 'f', 'f', 'f'], v4.chars].getLast?.bind Ipv4.ofChars? = some v4 :=
    Ipv4.ofChars?_chars v4
  rw [groups?, if_neg (by simp)]
  simp only [hsplit, hlast, hfront, if_true, Option.map_some]
  rfl

theorem ofChars?_chars (a : Ipv6) : ofChars? a.chars = some a := by
  rw [chars]
  split
  next v4 hmapped =>
    have hgs := mapped?_eq_some hmapped
    have hsplit : splitGap? ([':', ':', 'f', 'f', 'f', 'f', ':'] ++ v4.chars) =
        some ([], ['f', 'f', 'f', 'f'] ++ ':' :: v4.chars) := rfl
    have hempty : groups? false [] = some [] := rfl
    have hlist := ofList_toList a
    rw [hgs] at hlist
    rw [ofChars?, hsplit]
    simp only [hempty, groups?_mapped, Option.bind_eq_bind, Option.bind_some]
    exact congrArg some hlist
  next => exact ofChars?_groupChars a

theorem colon_mem_chars (a : Ipv6) : ':' ∈ a.chars := by
  rw [chars]
  split
  · simp
  · rw [groupChars]
    dsimp only
    split
    · have hlength := length_toList a
      match hgs : a.toList with
      | [] | [g] => rw [hgs] at hlength; cases hlength
      | g :: g' :: gs => simp [joinGroups_cons]
    · simp

end Ipv6

theorem IpAddr.newline_not_mem_text (a : IpAddr) : '\n' ∉ a.text.toList := by
  have hv4 (a : Ipv4) : '\n' ∉ a.chars := fun h =>
    absurd (Ipv4.isDigit_or_dot_of_ofChars? (Ipv4.ofChars?_chars a) '\n' h) (by decide)
  have hgroups (gs : List Nat) : '\n' ∉ Ipv6.joinGroups gs := by
    intro h
    rcases mem_joinWith h with hcolon | ⟨t, ht, hdigit⟩
    · exact absurd hcolon (by decide)
    · obtain ⟨g, -, rfl⟩ := List.mem_map.1 ht
      exact absurd (isSome_of_mem_hexDigits hdigit) (by decide)
  rw [text.eq_def]
  split
  next a =>
    rw [String.toList_ofList]
    exact hv4 a
  next a =>
    rw [String.toList_ofList, Ipv6.chars]
    split
    next v4 _ => simpa using hv4 v4
    next =>
      rw [Ipv6.groupChars]
      dsimp only
      split
      · exact hgroups _
      · simpa using ⟨hgroups _, hgroups _⟩

/-- An address is read back from its text, whichever form the text has. -/
theorem IpAddr.ofString?_text (a : IpAddr) : ofString? a.text = some a := by
  cases a with
  | v4 a =>
      rw [ofString?, text, String.toList_ofList, Ipv4.ofChars?_chars]
  | v6 a =>
      rw [ofString?, text, String.toList_ofList,
        Ipv4.ofChars?_eq_none a.colon_mem_chars rfl (by decide), Ipv6.ofChars?_chars]
      rfl

end IssuanceCheck
