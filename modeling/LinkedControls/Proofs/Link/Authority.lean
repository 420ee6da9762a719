import LinkedControls.Proofs.Decimal.ReadBack
import LinkedControls.Proofs.Link.Host

namespace LinkedControls.Link.Url

open Text

variable {kind : SchemeKind} {scheme s a : List Char}

def authorityMarks : List Char := [' ', '#', '/', '?', '@', '\\']

theorem plain_userSet (s : List Char) : Plain userSet (percentEncode userSet s) :=
  plain_percentEncode (by decide) s

inductive UserForm : List Char → Prop
  | none : UserForm []
  | some {user : List Char} : Plain authorityMarks user → writeUser user = user ++ ['@'] →
      UserForm (user ++ ['@'])

theorem writeUser_name {name : List Char} (hne : name ≠ []) (h : Plain userSet name) :
    writeUser name = name ++ ['@'] := by
  have hcolon : ':' ∉ name := h.not_mem (by decide)
  have hempty : name.isEmpty = false := List.isEmpty_eq_false_iff.mpr hne
  have hnil : percentEncode userSet [] = [] := rfl
  simp only [writeUser, splitFirst_of_not_mem hcolon, percentEncode_of_plain h, hnil, hempty]
  rfl

theorem writeUser_password {name password : List Char} (hname : Plain userSet name)
    (hne : password ≠ []) (h : Plain userSet password) :
    writeUser (name ++ ':' :: password) = name ++ ':' :: (password ++ ['@']) := by
  have hcolon : ':' ∉ name := hname.not_mem (by decide)
  have hempty : password.isEmpty = false := List.isEmpty_eq_false_iff.mpr hne
  simp only [writeUser, splitFirst_append hcolon, percentEncode_of_plain hname,
    percentEncode_of_plain h, hempty, Bool.and_false]
  rfl

theorem userForm_writeUser (user : List Char) : UserForm (writeUser user) := by
  obtain ⟨name, password, hwrite, hname, hpassword⟩ : ∃ name password,
      writeUser user =
        (if name.isEmpty && password.isEmpty then []
          else if password.isEmpty then name ++ ['@']
          else name ++ ':' :: (password ++ ['@'])) ∧
      Plain userSet name ∧ Plain userSet password :=
    ⟨_, _, rfl, plain_userSet _, plain_userSet _⟩
  have hmarks : authorityMarks ⊆ userSet := by decide
  rw [hwrite]
  by_cases hp : password = []
  · by_cases hn : name = []
    · rw [hp, hn]
      exact .none
    · rw [hp, List.isEmpty_nil, Bool.and_true, List.isEmpty_eq_false_iff.mpr hn]
      exact .some (hname.mono hmarks) (writeUser_name hn hname)
  · rw [List.isEmpty_eq_false_iff.mpr hp, Bool.and_false]
    have hcolon : isPlain authorityMarks ':' = true := by decide
    have huser := Plain.append (hname.mono hmarks) (Plain.cons hcolon (hpassword.mono hmarks))
    have hform := UserForm.some huser ((writeUser_password hname hp hpassword).trans (by simp))
    simpa using hform

theorem takeHost_of_plain {host rest : List Char} (h : Plain hostMarks host)
    (hrest : takeHost false rest = []) : takeHost false (host ++ rest) = host := by
  induction host with
  | nil => exact hrest
  | cons c host ih =>
    obtain ⟨hc, hhost⟩ := List.forall_mem_cons.mp h
    have hcolon : c ≠ ':' := fun he => h.not_mem (c := ':') (by decide) (he ▸ List.mem_cons_self)
    have hopen : c ≠ '[' := fun he => h.not_mem (c := '[') (by decide) (he ▸ List.mem_cons_self)
    have hclose : c ≠ ']' := fun he => h.not_mem (c := ']') (by decide) (he ▸ List.mem_cons_self)
    rw [List.cons_append, takeHost, if_neg (by simp [hcolon]), if_neg hopen, if_neg hclose, ih hhost]

theorem takeHost_of_inside {body rest : List Char} (hopen : '[' ∉ body) (hclose : ']' ∉ body)
    (hrest : takeHost false rest = []) :
    takeHost true (body ++ ']' :: rest) = body ++ [']'] := by
  induction body with
  | nil => simp [takeHost, hrest]
  | cons c body ih =>
    simp only [List.mem_cons, not_or] at hopen hclose
    rw [List.cons_append, takeHost, if_neg (by simp), if_neg (Ne.symm hopen.1),
      if_neg (Ne.symm hclose.1), ih hopen.2 hclose.2]
    rfl

theorem bracket_not_mem_writeIpv6 {c : Char} (hc : c = '[' ∨ c = ']') (pieces : List Nat) :
    c ∉ writeIpv6 pieces := by
  intro h
  have hdigits : ∀ d < 16, Nat.digitChar d ≠ '[' ∧ Nat.digitChar d ≠ ']' := by decide
  rcases mem_writeIpv6 h with rfl | ⟨d, hd, rfl⟩
  · exact absurd hc (by decide)
  · exact hc.elim (hdigits d hd).1 (hdigits d hd).2

theorem takeHost_append {host rest : List Char} (h : HostForm host)
    (hrest : takeHost false rest = []) : takeHost false (host ++ rest) = host := by
  cases h with
  | plain _ hplain => exact takeHost_of_plain hplain hrest
  | @wide pieces _ _ =>
    have hinside := takeHost_of_inside (bracket_not_mem_writeIpv6 (.inl rfl) pieces)
      (bracket_not_mem_writeIpv6 (.inr rfl) pieces) hrest
    rw [List.cons_append, List.append_assoc, List.singleton_append, takeHost, if_neg (by decide),
      if_pos rfl, hinside]

inductive PortForm (scheme : List Char) : List Char → Prop
  | none : PortForm scheme []
  | some {n : Nat} : n ≤ 65535 → defaultPort? scheme ≠ some n →
      PortForm scheme (':' :: (Nat.repr n).toList)

theorem portForm_readPort {ds port : List Char} (h : readPort scheme ds = .ok port) :
    PortForm scheme port := by
  unfold readPort at h
  split at h
  · cases h
  · dsimp only at h
    split at h
    · cases h
    next hn =>
      split at h
      · cases h
        exact .none
      next hdefault =>
        cases h
        exact .some (Nat.not_lt.mp hn) fun he => hdefault (.inr he)

theorem readPort_of_form {port : List Char} (h : PortForm scheme port) :
    readPort scheme (port.drop 1) = .ok port := by
  cases h with
  | none => rfl
  | @some n hn hdefault =>
    have hdigits : (Nat.repr n).toList.all isAsciiDigit = true :=
      List.all_eq_true.mpr fun c => Decimal.isDigit_of_mem_repr
    have hvalue : (Nat.repr n).toList.foldl (fun n c => n * 10 + (c.toNat - 48)) 0 = n :=
      Decimal.digitsValue_repr n
    have hempty : (Nat.repr n).toList.isEmpty = false := by
      rw [Nat.toList_repr]
      exact List.isEmpty_eq_false_iff.mpr Nat.toDigits_ne_nil
    rw [List.drop_succ_cons, List.drop_zero, readPort, hdigits, hvalue, hempty]
    simp [Nat.not_lt.mpr hn, hdefault]

theorem splitLast_append {c : Char} {b : List Char} (h : c ∉ b) (a : List Char) :
    splitLast c (a ++ c :: b) = some (a, b) := by
  have hreverse : (a ++ c :: b).reverse = b.reverse ++ c :: a.reverse := by simp
  rw [splitLast, hreverse, splitFirst_append (by simpa using h)]
  simp

theorem splitLast_of_not_mem {c : Char} {s : List Char} (h : c ∉ s) : splitLast c s = none := by
  rw [splitLast, splitFirst_of_not_mem (by simpa using h)]
  rfl

def readHost (kind : SchemeKind) (host : List Char) : Except UrlError (List Char) :=
  if kind = .other then opaqueHost host else specialHost host

theorem readHost_idem {host : List Char} (hne : s ≠ []) (h : readHost kind s = .ok host) :
    readHost kind host = .ok host ∧ HostForm host := by
  unfold readHost at h ⊢
  split at h
  next hkind =>
    rw [if_pos hkind]
    exact opaqueHost_idem hne h
  next hkind =>
    rw [if_neg hkind]
    exact specialHost_idem h

def readPlace (kind : SchemeKind) (scheme lead s : List Char) : Except UrlError (List Char) :=
  let host := takeHost false s
  let port := s.drop host.length
  if host.isEmpty then
    if kind = .special || !port.isEmpty || !lead.isEmpty then .error .emptyHost else .ok []
  else do
    let host ← readHost kind host
    return lead ++ host ++ (← readPort scheme (port.drop 1))

theorem readAuthority_eq (kind : SchemeKind) (scheme s : List Char) :
    readAuthority kind scheme s = match splitLast '@' s with
      | some (user, rest) =>
          if rest.isEmpty && user.isEmpty then .error .emptyHost
          else readPlace kind scheme (writeUser user) rest
      | none => readPlace kind scheme [] s := by
  have hplace (lead s : List Char) : readPlace kind scheme lead s =
      (do
        let host := takeHost false s
        let port := s.drop host.length
        if host.isEmpty then
          if kind = .special || !port.isEmpty || !lead.isEmpty then throw .emptyHost
          return []
        else
          let host ← if kind = .other then opaqueHost host else specialHost host
          return lead ++ host ++ (← readPort scheme (port.drop 1))) := by
    unfold readPlace
    dsimp only
    split
    · split <;> rfl
    · rw [readHost]
      split <;> rfl
  unfold readAuthority
  cases hs : splitLast '@' s with
  | none => exact (hplace [] s).symm
  | some p =>
    obtain ⟨user, rest⟩ := p
    cases user with
    | cons c user => exact (if_neg (by simp)).trans ((hplace _ rest).symm.trans (if_neg (by simp)).symm)
    | nil =>
      cases rest with
      | nil => rfl
      | cons c rest => exact (hplace _ (c :: rest)).symm

theorem of_readPlace {lead : List Char} (h : readPlace kind scheme lead s = .ok a) :
    (a = [] ∧ kind ≠ .special) ∨ ∃ host port, a = lead ++ host ++ port ∧
      readHost kind host = .ok host ∧ HostForm host ∧ PortForm scheme port := by
  unfold readPlace at h
  dsimp only at h
  split at h
  · split at h
    · cases h
    next hallowed =>
      cases h
      refine .inl ⟨rfl, fun hkind => hallowed ?_⟩
      simp [hkind]
  next hne =>
    obtain ⟨host, hhost, h⟩ := bind_eq_ok h
    obtain ⟨port, hport, h⟩ := bind_eq_ok h
    cases h
    obtain ⟨hidem, hform⟩ := readHost_idem (by simpa using hne) hhost
    exact .inr ⟨host, port, rfl, hidem, hform, portForm_readPort hport⟩

theorem takeHost_port {port : List Char} (h : PortForm scheme port) : takeHost false port = [] := by
  cases h with
  | none => rfl
  | some => simp [takeHost]

theorem readPlace_written {lead host port : List Char} (hread : readHost kind host = .ok host)
    (hhost : HostForm host) (hport : PortForm scheme port) :
    readPlace kind scheme lead (host ++ port) = .ok (lead ++ host ++ port) := by
  have htake := takeHost_append hhost (takeHost_port hport)
  have hne : host.isEmpty = false := List.isEmpty_eq_false_iff.mpr hhost.ne_nil
  simp only [readPlace, htake, hne, hread, List.drop_left, readPort_of_form hport]
  rfl

theorem plain_hostForm {host : List Char} (h : HostForm host) : Plain authorityMarks host := by
  cases h with
  | plain _ hplain => exact hplain.mono (by decide)
  | @wide pieces _ _ =>
    have hbody : Plain authorityMarks (writeIpv6 pieces) := by
      intro c hc
      have hdigits : ∀ d < 16, isPlain authorityMarks (Nat.digitChar d) = true := by decide
      rcases mem_writeIpv6 hc with rfl | ⟨d, hd, rfl⟩
      · decide
      · exact hdigits d hd
    have hopen : isPlain authorityMarks '[' = true := by decide
    have hclose : isPlain authorityMarks ']' = true := by decide
    exact Plain.cons hopen (hbody.append (Plain.cons hclose .nil))

theorem plain_portForm {port : List Char} (h : PortForm scheme port) : Plain authorityMarks port := by
  cases h with
  | none => exact .nil
  | @some n _ _ =>
    have hcolon : isPlain authorityMarks ':' = true := by decide
    refine Plain.cons hcolon fun c hc => ?_
    have hdigits : ∀ d < 10, isPlain authorityMarks (Nat.digitChar d) = true := by decide
    rw [Nat.toList_repr] at hc
    obtain ⟨d, hd, rfl⟩ := mem_toDigits (by decide) (by decide) hc
    exact hdigits d hd

def beyondAuthority : List Char := [' ', '#', '/', '?', '\\']

theorem readAuthority_idem (h : readAuthority kind scheme s = .ok a) :
    readAuthority kind scheme a = .ok a ∧ Plain beyondAuthority a ∧ (kind = .special → a ≠ []) := by
  obtain ⟨lead, hlead, ⟨rfl, hkind⟩ | ⟨host, port, rfl, hread, hhost, hport⟩⟩ : ∃ lead, UserForm lead ∧
      ((a = [] ∧ kind ≠ .special) ∨ ∃ host port, a = lead ++ host ++ port ∧
        readHost kind host = .ok host ∧ HostForm host ∧ PortForm scheme port) := by
    rw [readAuthority_eq] at h
    split at h
    · split at h
      · cases h
      · exact ⟨_, userForm_writeUser _, of_readPlace h⟩
    · exact ⟨[], .none, of_readPlace h⟩
  · refine ⟨?_, .nil, fun he => absurd he hkind⟩
    rw [readAuthority_eq]
    simp [splitLast, splitFirst, readPlace, takeHost, hkind]
  · have hplace : Plain authorityMarks (host ++ port) := (plain_hostForm hhost).append (plain_portForm hport)
    have hat : '@' ∉ host ++ port := hplace.not_mem (by decide)
    have hne : host ++ port ≠ [] := List.append_ne_nil_of_left_ne_nil hhost.ne_nil _
    have hsub : beyondAuthority ⊆ authorityMarks := by decide
    cases hlead with
    | none =>
      refine ⟨?_, hplace.mono hsub, fun _ => hne⟩
      rw [readAuthority_eq, List.nil_append, splitLast_of_not_mem hat]
      exact readPlace_written hread hhost hport
    | @some user huser hwrite =>
      have hsplit : user ++ ['@'] ++ host ++ port = user ++ '@' :: (host ++ port) := by simp
      have hmark : isPlain beyondAuthority '@' = true := by decide
      rw [hsplit]
      refine ⟨?_, (huser.mono hsub).append (Plain.cons hmark (hplace.mono hsub)), fun _ => by simp⟩
      rw [readAuthority_eq, splitLast_append hat]
      simp only [List.isEmpty_eq_false_iff.mpr hne, hwrite, Bool.false_and]
      rw [if_neg Bool.false_ne_true, readPlace_written hread hhost hport]
      simp

end LinkedControls.Link.Url
