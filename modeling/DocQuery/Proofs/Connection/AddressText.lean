import DocQuery.Connection.Basic

/-!
# Address texts

The text of an address joins its parts with signs, and the parts are not escaped.
Two settings with the same text have the same parts as long as each sign is missing
on one side of its place, and not in general.  An address that is given as one text
is used as it stands, unless credentials come without a database.
-/

namespace DocQuery

/-!
# Places of a sign

A sign that is missing on the same side of its place in two texts stands at the same
place in both when they are equal.
-/

theorem Text.eq_of_not_mem_before {sign : Char} {before before' after after' : List Char}
    (hbefore : sign ∉ before) (hbefore' : sign ∉ before')
    (h : before ++ sign :: after = before' ++ sign :: after') :
    before = before' ∧ after = after' := by
  induction before generalizing before' with
  | nil =>
      cases before' with
      | nil =>
          exact ⟨rfl, (List.cons.inj h).2⟩
      | cons c rest =>
          exact absurd (List.cons.inj h).1 (List.ne_of_not_mem_cons hbefore')
  | cons c rest ih =>
      cases before' with
      | nil =>
          exact absurd (List.cons.inj h).1.symm (List.ne_of_not_mem_cons hbefore)
      | cons c' rest' =>
          rcases List.cons.inj h with ⟨rfl, htail⟩
          rcases ih (List.not_mem_of_not_mem_cons hbefore)
            (List.not_mem_of_not_mem_cons hbefore') htail with ⟨rfl, hafter⟩
          exact ⟨rfl, hafter⟩

theorem Text.eq_of_not_mem_after {sign : Char} {before before' after after' : List Char}
    (hafter : sign ∉ after) (hafter' : sign ∉ after')
    (h : before ++ sign :: after = before' ++ sign :: after') :
    before = before' ∧ after = after' := by
  have hreverse : after.reverse ++ sign :: before.reverse =
      after'.reverse ++ sign :: before'.reverse := by
    simpa using congrArg List.reverse h
  rcases eq_of_not_mem_before (mt List.mem_reverse.mp hafter) (mt List.mem_reverse.mp hafter')
    hreverse with ⟨hafters, hbefores⟩
  exact ⟨List.reverse_inj.mp hbefores, List.reverse_inj.mp hafters⟩

theorem Number.eq_of_toDigits {n m : Nat} (h : Nat.toDigits 10 n = Nat.toDigits 10 m) :
    n = m := by
  calc
    n = Nat.ofDigitChars 10 (Nat.toDigits 10 n) 0 :=
      Nat.ofDigitChars_ten_toDigits.symm
    _ = Nat.ofDigitChars 10 (Nat.toDigits 10 m) 0 := by rw [h]
    _ = m := Nat.ofDigitChars_ten_toDigits

theorem Number.not_mem_toDigits {sign : Char} (h : sign.isDigit = false) (n : Nat) :
    sign ∉ Nat.toDigits 10 n := by
  intro hmem
  rw [Nat.isDigit_of_mem_toDigits (by decide) (by decide) hmem] at h
  cases h

namespace Connection

/-!
# Joined parts
-/

def joined (login : String × String) : List Char :=
  login.1.toList ++ ':' :: login.2.toList

def serverChars (c : Connection) : List Char :=
  c.host.toList ++ ':' :: Nat.toDigits 10 c.port.toNat

/-- What stands between the scheme and the sign before the database. -/
def frontChars (c : Connection) : List Char :=
  match c.credentials? with
  | some login => joined login ++ '@' :: c.serverChars
  | none => c.serverChars

theorem frontChars_of_some {c : Connection} {login : String × String}
    (h : c.credentials? = some login) : c.frontChars = joined login ++ '@' :: c.serverChars := by
  rw [frontChars, h]

theorem frontChars_of_none {c : Connection} (h : c.credentials? = none) :
    c.frontChars = c.serverChars := by
  rw [frontChars, h]

theorem toList_parts (c : Connection) :
    c.parts.toList =
      "mongodb://".toList ++ (c.frontChars ++ '/' :: (c.database.getD "").toList) := by
  -- The equation of `parts` takes long to set up, since it compares appended strings.
  delta parts
  cases h : c.credentials? with
  | none =>
      simp only [frontChars_of_none h, serverChars, Number.natText, String.toList_append,
        String.toList_ofList, List.append_assoc]
      rfl
  | some login =>
      simp only [frontChars_of_some h, serverChars, joined, Number.natText,
        String.toList_append, String.toList_ofList, List.append_assoc, List.cons_append]
      rfl

/-!
# Parts that can be told apart

The signs of an address are `@` before the host, `:` before the password and `/` before
the database.  The `:` before the port needs no care, since a port has digits only.
-/

/-- No sign of two addresses can be taken for a sign inside a part. -/
structure ToldApart (a b : Connection) : Prop where
  hosts : ∀ c ∈ [a, b], '@' ∉ c.host.toList
  passwords :
    (∀ c ∈ [a, b], ∀ login ∈ c.credentials?, ':' ∉ login.1.toList) ∨
      ∀ c ∈ [a, b], ∀ login ∈ c.credentials?, ':' ∉ login.2.toList
  databases :
    (∀ c ∈ [a, b], '/' ∉ c.host.toList ∧
      ∀ login ∈ c.credentials?, '/' ∉ login.1.toList ∧ '/' ∉ login.2.toList) ∨
      ∀ c ∈ [a, b], '/' ∉ (c.database.getD "").toList

theorem eq_of_serverChars {a b : Connection} (h : a.serverChars = b.serverChars) :
    a.host = b.host ∧ a.port = b.port := by
  have hdigits (n : Nat) : ':' ∉ Nat.toDigits 10 n := Number.not_mem_toDigits (by decide) n
  rcases Text.eq_of_not_mem_after (hdigits _) (hdigits _) h with ⟨hhost, hport⟩
  exact ⟨String.toList_inj.mp hhost, UInt16.toNat_inj.mp (Number.eq_of_toDigits hport)⟩

theorem not_mem_serverChars {c : Connection} {sign : Char} (hhost : sign ∉ c.host.toList)
    (hcolon : sign ≠ ':') (hdigit : sign.isDigit = false) : sign ∉ c.serverChars := by
  simp [serverChars, hhost, hcolon, Number.not_mem_toDigits hdigit]

theorem not_mem_joined {login : String × String} {sign : Char} (huser : sign ∉ login.1.toList)
    (hpassword : sign ∉ login.2.toList) (hcolon : sign ≠ ':') : sign ∉ joined login := by
  simp [joined, huser, hpassword, hcolon]

theorem slash_not_mem_frontChars {c : Connection} (hhost : '/' ∉ c.host.toList)
    (hlogin : ∀ login ∈ c.credentials?, '/' ∉ login.1.toList ∧ '/' ∉ login.2.toList) :
    '/' ∉ c.frontChars := by
  have hserver : '/' ∉ c.serverChars := not_mem_serverChars hhost (by decide) (by decide)
  cases hcredentials : c.credentials? with
  | none =>
      rw [frontChars_of_none hcredentials]
      exact hserver
  | some login =>
      rcases hlogin login hcredentials with ⟨huser, hpassword⟩
      have hjoined := not_mem_joined huser hpassword (by decide)
      simp [frontChars_of_some hcredentials, hjoined, hserver]

theorem eq_of_joined {login login' : String × String} (h : joined login = joined login')
    (hapart : (':' ∉ login.1.toList ∧ ':' ∉ login'.1.toList) ∨
      (':' ∉ login.2.toList ∧ ':' ∉ login'.2.toList)) : login = login' := by
  have hparts : login.1.toList = login'.1.toList ∧ login.2.toList = login'.2.toList := by
    rcases hapart with ⟨huser, huser'⟩ | ⟨hpassword, hpassword'⟩
    · exact Text.eq_of_not_mem_before huser huser' h
    · exact Text.eq_of_not_mem_after hpassword hpassword' h
  exact Prod.ext (String.toList_inj.mp hparts.1) (String.toList_inj.mp hparts.2)

theorem ToldApart.eq_of_frontChars {a b : Connection} (hapart : ToldApart a b)
    (h : a.frontChars = b.frontChars) :
    a.credentials? = b.credentials? ∧ a.serverChars = b.serverChars := by
  have hserver {c : Connection} (hc : c ∈ [a, b]) : '@' ∉ c.serverChars :=
    not_mem_serverChars (hapart.hosts c hc) (by decide) (by decide)
  have ha : a ∈ [a, b] := List.mem_cons_self
  have hb : b ∈ [a, b] := List.mem_cons_of_mem a (List.mem_singleton_self b)
  cases hlogin : a.credentials? with
  | none =>
      rw [frontChars_of_none hlogin] at h
      cases hlogin' : b.credentials? with
      | none =>
          rw [frontChars_of_none hlogin'] at h
          exact ⟨rfl, h⟩
      | some login' =>
          -- The sign that ends a login cannot stand in a server.
          rw [frontChars_of_some hlogin'] at h
          exact absurd (h ▸ List.mem_append_right _ List.mem_cons_self) (hserver ha)
  | some login =>
      rw [frontChars_of_some hlogin] at h
      cases hlogin' : b.credentials? with
      | none =>
          rw [frontChars_of_none hlogin'] at h
          exact absurd (h ▸ List.mem_append_right _ List.mem_cons_self) (hserver hb)
      | some login' =>
          rw [frontChars_of_some hlogin'] at h
          rcases Text.eq_of_not_mem_after (hserver ha) (hserver hb) h with ⟨hjoined, hservers⟩
          have heq : login = login' := by
            apply eq_of_joined hjoined
            rcases hapart.passwords with husers | hpasswords
            · exact .inl ⟨husers a ha login hlogin, husers b hb login' hlogin'⟩
            · exact .inr ⟨hpasswords a ha login hlogin, hpasswords b hb login' hlogin'⟩
          exact ⟨congrArg some heq, hservers⟩

theorem ToldApart.eq_of_parts {a b : Connection} (hapart : ToldApart a b)
    (h : a.parts = b.parts) :
    a.frontChars = b.frontChars ∧ a.database.getD "" = b.database.getD "" := by
  have ha : a ∈ [a, b] := List.mem_cons_self
  have hb : b ∈ [a, b] := List.mem_cons_of_mem a (List.mem_singleton_self b)
  have htexts := congrArg String.toList h
  rw [toList_parts, toList_parts] at htexts
  have hjoined := List.append_cancel_left htexts
  have hsplit : a.frontChars = b.frontChars ∧
      (a.database.getD "").toList = (b.database.getD "").toList := by
    rcases hapart.databases with hfronts | hdatabases
    · rcases hfronts a ha with ⟨hhost, hlogin⟩
      rcases hfronts b hb with ⟨hhost', hlogin'⟩
      exact Text.eq_of_not_mem_before (slash_not_mem_frontChars hhost hlogin)
        (slash_not_mem_frontChars hhost' hlogin') hjoined
    · exact Text.eq_of_not_mem_after (hdatabases a ha) (hdatabases b hb) hjoined
  exact ⟨hsplit.1, String.toList_inj.mp hsplit.2⟩

theorem eq_parts_of_addressText {c : Connection} {text : String} (hurl : c.url = none)
    (h : c.addressText = .ok text) : text = c.parts := by
  unfold addressText at h
  split at h
  · cases h
  · rw [hurl] at h
    exact (Except.ok.inj h).symm

/-- An assembled address tells its parts, if they can be told apart. -/
theorem parts_of_addressText {a b : Connection} {text : String} (ha : a.url = none)
    (hb : b.url = none) (htext : a.addressText = .ok text) (htext' : b.addressText = .ok text)
    (hapart : ToldApart a b) :
    a.host = b.host ∧ a.port = b.port ∧ a.database.getD "" = b.database.getD "" ∧
      a.credentials? = b.credentials? := by
  have hparts : a.parts = b.parts :=
    (eq_parts_of_addressText ha htext).symm.trans (eq_parts_of_addressText hb htext')
  rcases hapart.eq_of_parts hparts with ⟨hfront, hdatabase⟩
  rcases hapart.eq_of_frontChars hfront with ⟨hcredentials, hserver⟩
  rcases eq_of_serverChars hserver with ⟨hhost, hport⟩
  exact ⟨hhost, hport, hdatabase, hcredentials⟩

theorem parts_of_addressText_inventory :
    let a : Connection :=
      { host := "db.internal", user := some "app", password := some "p:@/ss",
        database := some "inventory" }
    let b : Connection := { a with appName := some "stock" }
    a.addressText = .ok "mongodb://app:p:@/ss@db.internal:27017/inventory" ∧ ToldApart a b ∧
      a.host = b.host ∧ a.port = b.port ∧ a.database.getD "" = b.database.getD "" ∧
      a.credentials? = b.credentials? := by
  intro a b
  have hparts : a.parts = "mongodb://app:p:@/ss@db.internal:27017/inventory" := by decide
  have htext : a.addressText = .ok a.parts := rfl
  have hapart : ToldApart a b := ⟨by decide, .inl (by decide), .inr (by decide)⟩
  exact ⟨htext.trans (congrArg _ hparts), hapart,
    parts_of_addressText rfl rfl htext htext hapart⟩

def AssembleAlike (a b : Connection) : Prop :=
  a.url = none ∧ b.url = none ∧ ∃ text, a.addressText = .ok text ∧ b.addressText = .ok text

/-- Two addresses may be one text although their logins, hosts or databases differ. -/
theorem address_of_other_parts :
    (let a : Connection :=
        { user := some "app:x", password := some "secret", database := some "inventory" }
      let b : Connection :=
        { user := some "app", password := some "x:secret", database := some "inventory" }
      AssembleAlike a b ∧ a.credentials? ≠ b.credentials?) ∧
    (let a : Connection := { host := "app:secret@db", database := some "inventory" }
      let b : Connection :=
        { host := "db", user := some "app", password := some "secret",
          database := some "inventory" }
      AssembleAlike a b ∧ a.credentials? ≠ b.credentials? ∧ a.host ≠ b.host) ∧
    (let a : Connection := { host := "db:1/inventory" }
      let b : Connection := { host := "db", port := 1, database := some "inventory:27017/" }
      AssembleAlike a b ∧ a.host ≠ b.host ∧ a.port ≠ b.port ∧ a.database ≠ b.database) ∧
    (let a : Connection := { host := "db" }
      let b : Connection := { host := "db", database := some "" }
      AssembleAlike a b ∧ a.database ≠ b.database) := by
  refine ⟨?_, ?_, ?_, ?_⟩
  · exact ⟨⟨rfl, rfl, _, rfl, rfl⟩, by decide⟩
  · exact ⟨⟨rfl, rfl, _, rfl, rfl⟩, by decide, by decide⟩
  · exact ⟨⟨rfl, rfl, _, rfl, rfl⟩, by decide, by decide, by decide⟩
  · exact ⟨⟨rfl, rfl, _, rfl, rfl⟩, by decide⟩

/-!
# Addresses that are given as one text

Host, port, login and database then count for nothing, except that credentials are
refused without a database even though no address is assembled from them.
-/

/-- Whether there are credentials and no database to check them. -/
def LacksDatabase (c : Connection) : Prop :=
  c.credentials?.isSome ∧ c.database = none

/-- The same settings with no more than the defaults for the parts of an address. -/
def withoutParts (c : Connection) : Connection :=
  { c with host := "localhost", port := 27017, user := none, password := none, database := none }

theorem addressText_of_lacksDatabase {c : Connection} (h : c.LacksDatabase) :
    c.addressText = .error (.connection .noDatabaseForCredentials) :=
  if_pos h

theorem addressText_of_url {c : Connection} {url : String} (hurl : c.url = some url)
    (h : ¬ c.LacksDatabase) : c.addressText = .ok url := by
  have htext : c.addressText = .ok (c.url.getD c.parts) := if_neg h
  rw [htext, hurl, Option.getD_some]

theorem source_of_url {c : Connection} {url : String} (hurl : c.url = some url)
    (h : ¬ c.LacksDatabase) : c.source = .ok ⟨url, none⟩ := by
  have hisSome : c.url.isSome = true := Option.isSome_of_eq_some hurl
  rw [source, addressText_of_url hurl h, hisSome]
  rfl

theorem source_of_lacksDatabase {c : Connection} (h : c.LacksDatabase) :
    c.source = .error (.connection .noDatabaseForCredentials) := by
  rw [source, addressText_of_lacksDatabase h]
  rfl

theorem target_congr {a b : Connection} (hsource : a.source = b.source)
    (hoptions : a.options = b.options) : a.target = b.target := by
  rw [target, target, hsource, hoptions]

theorem not_lacksDatabase_withoutParts (c : Connection) : ¬ c.withoutParts.LacksDatabase :=
  fun h => Bool.false_ne_true h.1

/-- A url is the address, whatever parts are given with it, unless a database is lacking. -/
theorem url_decides {c : Connection} {url : String} (hurl : c.url = some url) :
    (¬ c.LacksDatabase →
      c.addressText = .ok url ∧ c.source = .ok ⟨url, none⟩ ∧
        c.target = c.withoutParts.target) ∧
    (c.LacksDatabase →
      c.addressText = .error (.connection .noDatabaseForCredentials) ∧
        c.source = .error (.connection .noDatabaseForCredentials) ∧
        c.target = .error (.connection .noDatabaseForCredentials)) := by
  constructor
  · intro h
    have hbare : c.withoutParts.source = .ok ⟨url, none⟩ :=
      source_of_url hurl c.not_lacksDatabase_withoutParts
    have hsource := source_of_url hurl h
    exact ⟨addressText_of_url hurl h, hsource, target_congr (hsource.trans hbare.symm) rfl⟩
  · intro h
    have hsource := source_of_lacksDatabase h
    refine ⟨addressText_of_lacksDatabase h, hsource, ?_⟩
    rw [target, hsource]
    rfl

theorem url_decides_cluster :
    let c : Connection :=
      { host := "ignored", port := 0, user := some "app", password := some "secret",
        database := some "ignored", url := some "mongodb://cluster.example.net/app",
        appName := some "stock" }
    ¬ c.LacksDatabase ∧ c.addressText = .ok "mongodb://cluster.example.net/app" ∧
      c.source = .ok ⟨"mongodb://cluster.example.net/app", none⟩ ∧
      c.target = c.withoutParts.target := by
  intro c
  have hdatabase : ¬ c.LacksDatabase := fun h => Option.some_ne_none _ h.2
  exact ⟨hdatabase, (url_decides rfl).1 hdatabase⟩

/-- A url is refused for credentials that it has no need of. -/
theorem url_refused :
    let c : Connection :=
      { user := some "app", password := some "secret",
        url := some "mongodb://cluster.example.net/app" }
    c.addressText ≠ .ok "mongodb://cluster.example.net/app" ∧
      c.source ≠ .ok ⟨"mongodb://cluster.example.net/app", none⟩ := by
  intro c
  have hlacks : c.LacksDatabase := ⟨rfl, rfl⟩
  rw [addressText_of_lacksDatabase hlacks, source_of_lacksDatabase hlacks]
  exact ⟨nofun, nofun⟩

end Connection
end DocQuery
