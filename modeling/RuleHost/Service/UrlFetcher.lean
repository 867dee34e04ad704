import RuleHost.HostError
import RuleHost.Value.Text

/-! Fetches a URL on behalf of a script, without a network: it answers with what it was asked for, or
always fails. -/

namespace RuleHost

inductive UrlFetcher where
  | echo
  | failing (message : String)

def UrlFetcher.fetch (fetcher : UrlFetcher) (target : Value) : Except HostError Value :=
  match fetcher with
  | .echo => .ok (.string s!"get_url {target.display}")
  | .failing message => .error (.collaborator "get_url" message)

end RuleHost
