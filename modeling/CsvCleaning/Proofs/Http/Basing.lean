import CsvCleaning.Http.Client
import CsvCleaning.Proofs.Url.Below

/-!
# What a base address is good for

The base of a client is the configured address without the slashes at its end, and the scheme is looked
for before these are dropped. If something else follows the scheme, the base is accepted again as it is,
and all calls go to the configured authority. If nothing but slashes follows it, the slashes of the
scheme are dropped too: the base is refused, and what should be the path of a call is read for its host.
-/

namespace CsvCleaning

namespace BaseUrl

/-- What an address of a scheme begins with. -/
def lead (scheme : Scheme) : List Char :=
  (scheme.name ++ "://").toList

/-- An address that has nothing but slashes after its scheme. -/
def Bare (url : String) : Prop :=
  ∃ scheme rest, url.toList = lead scheme ++ rest ∧ ∀ c ∈ rest, c = '/'

/-- The scheme and the authority that an address is written with. -/
def origin? (url : String) : Option (Scheme × List Char) :=
  [Scheme.http, .https].findSome? fun scheme =>
    if (lead scheme).isPrefixOf url.toList then
      some (scheme, (url.toList.drop (lead scheme).length).takeWhile (!Url.endsAuthority ·))
    else none

/-- The lead of `http`. -/
theorem lead_http : lead .http = ['h', 't', 't', 'p', ':', '/', '/'] := by decide

/-- The lead of `https`. -/
theorem lead_https : lead .https = ['h', 't', 't', 'p', 's', ':', '/', '/'] := by decide

/-- An address has a scheme if it begins with the lead of one. -/
theorem hasScheme_iff {url : String} :
    hasScheme url = true ↔ ∃ scheme rest, url.toList = lead scheme ++ rest := by
  rw [hasScheme, Bool.or_eq_true, List.isPrefixOf_iff_prefix, List.isPrefixOf_iff_prefix]
  constructor
  · rintro (⟨rest, hrest⟩ | ⟨rest, hrest⟩)
    · exact ⟨.http, rest, hrest.symm⟩
    · exact ⟨.https, rest, hrest.symm⟩
  · rintro ⟨scheme, rest, hrest⟩
    cases scheme with
    | http => exact .inl ⟨rest, hrest.symm⟩
    | https => exact .inr ⟨rest, hrest.symm⟩

/-- The scheme is told by the beginning of an address. -/
theorem lead_append_inj {scheme scheme' : Scheme} {rest rest' : List Char}
    (h : lead scheme ++ rest = lead scheme' ++ rest') : scheme = scheme' ∧ rest = rest' := by
  cases scheme <;> cases scheme' <;> simp_all [lead_http, lead_https]

/-- The authority comes after the lead. -/
theorem origin?_of_lead {url : String} {scheme : Scheme} {rest : List Char}
    (h : url.toList = lead scheme ++ rest) :
    origin? url = some (scheme, rest.takeWhile (!Url.endsAuthority ·)) := by
  cases scheme <;> simp [origin?, h, lead_http, lead_https]

/-- An address is bare if all that follows its lead is slashes. -/
theorem bare_iff {url : String} {scheme : Scheme} {rest : List Char}
    (h : url.toList = lead scheme ++ rest) : Bare url ↔ ∀ c ∈ rest, c = '/' := by
  constructor
  · rintro ⟨scheme', rest', h', hslashes⟩
    rw [h] at h'
    obtain ⟨-, rfl⟩ := lead_append_inj h'
    exact hslashes
  · exact fun hslashes => ⟨scheme, rest, h, hslashes⟩

/-! ### Dropping slashes at the end -/

/-- The characters that are left of an address. -/
theorem toList_trim (url : String) : (trim url).toList = url.toList.rdropWhile (· == '/') := by
  rw [trim, String.toList_ofList]
  rfl

/-- What is left does not end in a slash. -/
theorem getLast?_trim (url : String) : (trim url).toList.getLast? ≠ some '/' := by
  rw [toList_trim]
  intro hlast
  obtain ⟨hne, hslash⟩ := List.mem_getLast?_eq_getLast hlast
  exact List.rdropWhile_last_not _ _ hne (by simp [← hslash])

/-- Dropping the slashes again changes nothing. -/
theorem trim_trim (url : String) : trim (trim url) = trim url := by
  rw [← String.toList_inj, toList_trim, toList_trim, List.rdropWhile_idempotent]

/-- Unless the address is bare, its lead stays, and slashes are dropped from what follows. -/
theorem toList_trim_of_not_bare {url : String} {scheme : Scheme} {rest : List Char}
    (h : url.toList = lead scheme ++ rest) (hbare : ¬ Bare url) :
    (trim url).toList = lead scheme ++ rest.rdropWhile (· == '/') := by
  have hrest : rest.rdropWhile (· == '/') ≠ [] := by
    rw [Ne, List.rdropWhile_eq_nil_iff]
    intro hslashes
    exact hbare ((bare_iff h).mpr fun c hc => by simpa using hslashes c hc)
  have hdropped : (rest.reverse.dropWhile (· == '/')).isEmpty = false := by
    simpa [List.rdropWhile] using hrest
  rw [toList_trim, h, List.rdropWhile, List.reverse_append, List.dropWhile_append, hdropped]
  simp [List.rdropWhile]

/-- Of a bare address only the scheme and its colon are left. -/
theorem exists_trim_eq_of_bare {url : String} (hbare : Bare url) :
    ∃ scheme : Scheme, trim url = scheme.name ++ ":" := by
  obtain ⟨scheme, rest, h, hslashes⟩ := hbare
  have hrest : rest.reverse.dropWhile (· == '/') = [] := by
    rw [List.dropWhile_eq_nil_iff]
    intro c hc
    simp [hslashes c (List.mem_reverse.mp hc)]
  refine ⟨scheme, ?_⟩
  rw [← String.toList_inj, toList_trim, h, List.rdropWhile, List.reverse_append, List.dropWhile_append,
    hrest]
  cases scheme <;> decide

/-- Characters that end a stretch can be dropped after it. -/
theorem takeWhile_rdropWhile {α : Type} {p q : α → Bool} (h : ∀ c, p c = true → q c = false) (l : List α) :
    (l.rdropWhile p).takeWhile q = l.takeWhile q := by
  induction l using List.reverseRecOn with
  | nil => rfl
  | append_singleton front c ih =>
    cases hc : p c with
    | true => rw [List.rdropWhile_concat_pos _ _ _ hc, ih, Text.takeWhile_append_cons q front (h c hc)]
    | false => rw [List.rdropWhile_concat_neg _ _ _ (by simp [hc])]

end BaseUrl

namespace Client

/-- All but the health of the service is asked for below the path of its interface. -/
theorem exists_endpoint_eq_of_ne {c : Call} (h : c ≠ .health) :
    ∃ more, endpoint c = "/api/v1/" ++ more := by
  cases c with
  | health => exact absurd rfl h
  | upload file => exact ⟨"upload", rfl⟩
  | process fileId => exact ⟨"process", rfl⟩
  | execute fileId => exact ⟨"execute", rfl⟩
  | status fileId => exact ⟨"status/" ++ fileId, by rw [← String.append_assoc]; rfl⟩
  | result fileId => exact ⟨"result/" ++ fileId, by rw [← String.append_assoc]; rfl⟩
  | script fileId => exact ⟨"script/" ++ fileId, by rw [← String.append_assoc]; rfl⟩
  | download fileId => exact ⟨"download/" ++ fileId, by rw [← String.append_assoc]; rfl⟩

/-- What is put after the base begins with a slash. -/
theorem exists_endpoint_eq (c : Call) : ∃ more, endpoint c = "/" ++ more := by
  by_cases h : c = .health
  · exact ⟨"", by rw [h]; rfl⟩
  · obtain ⟨more, hmore⟩ := exists_endpoint_eq_of_ne h
    exact ⟨"api/v1/" ++ more, by rw [hmore, ← String.append_assoc]; rfl⟩

/-- If the base with a slash is an address, all calls go to the service there. -/
theorem exists_ofText?_endpoint {client : Client} {home : Url}
    (hhome : Url.ofText? (client.base ++ "/") = some home) (c : Call) :
    ∃ found, Url.ofText? (client.base ++ endpoint c) = some found ∧
      found.scheme = home.scheme ∧ found.host = home.host ∧ found.port = home.port := by
  obtain ⟨more, hmore⟩ := exists_endpoint_eq c
  rw [hmore, ← String.append_assoc]
  exact Url.exists_ofText?_append hhome more

/-- A client is made of the trimmed address, if this was accepted. -/
theorem ofAddress_eq_ok_iff {url : String} {client : Client} :
    ofAddress url = .ok client ↔ BaseUrl.hasScheme url = true ∧ client.base = BaseUrl.trim url := by
  rw [← BaseUrl.check_eq_ok_iff]
  unfold ofAddress
  cases hcheck : BaseUrl.check url with
  | error f => simp
  | ok => cases client; simp [eq_comm]

/-- A client that can be used: its base is accepted and yields the same client again, and the address
of each call is written with the scheme and the authority that were configured. -/
structure Usable (client : Client) (url : String) : Prop where
  accepted : BaseUrl.check client.base = .ok ()
  stable : ofAddress client.base = .ok client
  directed : ∃ origin, BaseUrl.origin? url = some origin ∧
    ∀ c, BaseUrl.origin? (client.base ++ endpoint c) = some origin

/-- A client that cannot: its base is refused, there is no address to ask for the health of the
service, and all other calls ask the host `api`. -/
structure Unusable (client : Client) : Prop where
  refused : BaseUrl.check client.base = .error (.validation ("Invalid URL format: " ++ client.base))
  unstable : ofAddress client.base = .error (.validation ("Invalid URL format: " ++ client.base))
  unaddressed : Url.ofText? (client.base ++ endpoint .health) = none
  misled (c : Call) : c ≠ .health →
    ∃ found, Url.ofText? (client.base ++ endpoint c) = some found ∧ found.host = "api"

/-- With something after the scheme, the client can be used. -/
theorem usable_of_not_bare {url : String} {client : Client} (h : ofAddress url = .ok client)
    (hbare : ¬ BaseUrl.Bare url) : client.Usable url := by
  obtain ⟨hscheme, hbase⟩ := ofAddress_eq_ok_iff.mp h
  obtain ⟨scheme, rest, hurl⟩ := BaseUrl.hasScheme_iff.mp hscheme
  have htrim := BaseUrl.toList_trim_of_not_bare hurl hbare
  have haccepted : BaseUrl.hasScheme client.base = true :=
    BaseUrl.hasScheme_iff.mpr ⟨scheme, _, hbase ▸ htrim⟩
  refine ⟨BaseUrl.check_eq_ok_iff.mpr haccepted,
    ofAddress_eq_ok_iff.mpr ⟨haccepted, by rw [hbase, BaseUrl.trim_trim]⟩,
    _, BaseUrl.origin?_of_lead hurl, fun c => ?_⟩
  obtain ⟨more, hmore⟩ := exists_endpoint_eq c
  have hendpoint : (client.base ++ endpoint c).toList =
      BaseUrl.lead scheme ++ (rest.rdropWhile (· == '/') ++ '/' :: more.toList) := by
    rw [hmore, hbase, String.toList_append, String.toList_append, htrim, List.append_assoc]
    rfl
  have hslash : (!Url.endsAuthority '/') = false := by decide
  rw [BaseUrl.origin?_of_lead hendpoint, Text.takeWhile_append_cons (!Url.endsAuthority ·) _ hslash,
    BaseUrl.takeWhile_rdropWhile fun c hc => by rw [beq_iff_eq.mp hc, hslash]]

/-- With nothing but slashes after the scheme, the client cannot be used. -/
theorem unusable_of_bare {url : String} {client : Client} (h : ofAddress url = .ok client)
    (hbare : BaseUrl.Bare url) : client.Unusable := by
  obtain ⟨-, hbase⟩ := ofAddress_eq_ok_iff.mp h
  obtain ⟨scheme, htrim⟩ := BaseUrl.exists_trim_eq_of_bare hbare
  rw [htrim] at hbase
  have hcheck : BaseUrl.check client.base =
      .error (.validation ("Invalid URL format: " ++ client.base)) := by
    rw [hbase, BaseUrl.check, if_neg (by cases scheme <;> decide)]
  have hhome : ∃ home, Url.ofText? (scheme.name ++ ":/api/v1" ++ "/") = some home ∧ home.host = "api" := by
    cases scheme with
    | http => exact ⟨⟨.http, "api", none, ["v1", ""], none, none⟩, by decide +kernel, rfl⟩
    | https => exact ⟨⟨.https, "api", none, ["v1", ""], none, none⟩, by decide +kernel, rfl⟩
  refine ⟨hcheck, by rw [ofAddress, hcheck], ?_, fun c hc => ?_⟩
  · rw [hbase]
    cases scheme <;> decide +kernel
  · obtain ⟨home, hhome, hhost⟩ := hhome
    obtain ⟨more, hmore⟩ := exists_endpoint_eq_of_ne hc
    obtain ⟨found, hfound, -, hsame, -⟩ := Url.exists_ofText?_append hhome more
    refine ⟨found, ?_, hsame.trans hhost⟩
    rw [← hfound, hbase, hmore]
    simp only [String.append_assoc]
    rfl

/-- The base of a client does not end in a slash. The client can be used, unless nothing but slashes
follows the scheme of its address; then it cannot. If the base with a slash is an address, every call
asks the service there. -/
theorem base_usable_unless_bare {url : String} {client : Client} (h : ofAddress url = .ok client) :
    client.base.toList.getLast? ≠ some '/' ∧
      (¬ BaseUrl.Bare url → client.Usable url) ∧
      (BaseUrl.Bare url → client.Unusable) ∧
      ∀ home, Url.ofText? (client.base ++ "/") = some home → ∀ c,
        ∃ found, Url.ofText? (client.base ++ endpoint c) = some found ∧
          found.scheme = home.scheme ∧ found.host = home.host ∧ found.port = home.port := by
  refine ⟨?_, usable_of_not_bare h, unusable_of_bare h, fun home => exists_ofText?_endpoint⟩
  rw [(ofAddress_eq_ok_iff.mp h).2]
  exact BaseUrl.getLast?_trim url

/-- The configured slashes at the end of a path are dropped, and every call asks the configured host at
its port. -/
theorem base_usable_of_path :
    ofAddress "https://h:80/x//" = .ok ⟨"https://h:80/x"⟩ ∧ ¬ BaseUrl.Bare "https://h:80/x//" ∧
      (Client.mk "https://h:80/x").Usable "https://h:80/x//" ∧
      ∀ c, ∃ found, Url.ofText? ("https://h:80/x" ++ endpoint c) = some found ∧
        found.scheme = .https ∧ found.host = "h" ∧ found.port = some 80 := by
  have haddress : ofAddress "https://h:80/x//" = .ok ⟨"https://h:80/x"⟩ := by decide
  have hbare : ¬ BaseUrl.Bare "https://h:80/x//" := by
    have hlead : "https://h:80/x//".toList = BaseUrl.lead .https ++ "h:80/x//".toList := by decide
    rw [BaseUrl.bare_iff hlead]
    exact fun hslashes => absurd (hslashes 'h' (by decide +kernel)) (by decide)
  have hhome : Url.ofText? ("https://h:80/x" ++ "/") =
      some ⟨.https, "h", some 80, ["x", ""], none, none⟩ := by decide +kernel
  obtain ⟨-, husable, -, hplace⟩ := base_usable_unless_bare haddress
  exact ⟨haddress, hbare, husable hbare, hplace _ hhome⟩

/-- Of a scheme without a host there is a client. Its base would be refused, and the state of a file is
asked from the host `api`. -/
theorem bare_base_is_refused :
    ofAddress "http://" = .ok ⟨"http:"⟩ ∧
      BaseUrl.check "http:" = .error (.validation "Invalid URL format: http:") ∧
      ofAddress "http:" = .error (.validation "Invalid URL format: http:") ∧
      Url.ofText? ("http:" ++ endpoint (.status "a1")) =
        some ⟨.http, "api", none, ["v1", "status", "a1"], none, none⟩ := by
  decide +kernel

end Client

end CsvCleaning
