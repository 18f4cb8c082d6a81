import ObjectStorage.Url.Authority

/-!
# Proxy addresses

* `schemeMark`: `://`, which tells an address with a scheme from one without.
* `complete address`: the address as a URL: with `http://` in front unless it holds that mark.
* `Proxy.url address`: this URL, unchanged, if it has a host and a port.
* `Proxy.url_eq_complete`: what is accepted is that URL and nothing else.
-/

namespace ObjectStorage.Proxy

/-- What stands between a scheme and an authority. -/
def schemeMark : List Char := [':', '/', '/']

/-- Whether `mark` stands somewhere in a text. -/
def holds (mark : List Char) : List Char → Bool
  | [] => mark.isEmpty
  | c :: cs => mark.isPrefixOf (c :: cs) || holds mark cs

/-- An address as a URL: with a scheme in front unless it has one. -/
def complete (address : String) : String :=
  if holds schemeMark address.toList then address else "http://" ++ address

/-- An address without host or port, as it was given. -/
def fault (address : String) : InvalidConfiguration :=
  ⟨Field.key .proxyAddress, "must be in the form host:port, got '" ++ address ++ "'"⟩

/-- The URL of a proxy, if it has a host and a port. -/
def url (address : String) : Except Fault String :=
  match Url.endpoint? (complete address).toList with
  | .error e => .error (.address e)
  | .ok (host, port) =>
    if host ≠ [] && Url.isPort port then .ok (complete address)
    else .error (.configuration (fault address))

/-- What is accepted is the completed address, unchanged. -/
theorem url_eq_complete {address u : String} (h : url address = .ok u) : u = complete address := by
  unfold url at h
  split at h
  · cases h
  · split at h
    · exact (Except.ok.inj h).symm
    · cases h

end ObjectStorage.Proxy
