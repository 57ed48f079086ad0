import SearchPlan.Pattern.Reader
import SearchPlan.Permission
import SearchPlan.Run.Start

/-! A small plan to look at: text search is required, symbol search is welcome within a deadline, and
all of it is capped and hidden from a viewer who may not see the secrets. -/

namespace SearchPlan.Demo

def repo : String := "github.com/acme/api"

def textSearch : Script where
  name := "textsearch"
  steps := [
    .sleep (.ofMillis 20),
    .emit [.ofContent repo "src/server.rs" 42 "fn serve(addr: SocketAddr)",
      .ofContent repo "secrets/tls.rs" 7 "const KEY: &str = ..."],
    .sleep (.ofMillis 20),
    .emit [.ofContent repo "src/client.rs" 9 "serve(addr)"]]

def symbolSearch : Script where
  name := "symbolsearch"
  steps := [
    .sleep (.ofMillis 10),
    .emit [.ofSymbol repo "src/server.rs" 42 "serve"],
    .sleep (.ofSecs 5),
    .emit [.ofSymbol repo "src/late.rs" 1 "late"]]

def repoSearch : Script where
  name := "repos"
  steps := [.emit [.ofRepo repo]]

def rules : List (String × String) := [(repo, "^secrets/")]

def plan : Except Error Plan := do
  let rules ← (DenyRules.build Pattern.compile? {} rules).mapError .config
  let searches := Plan.gather .parallel [
    .priority (.leaf textSearch) (.timeout (.ofMillis 50) (.leaf symbolSearch)),
    .leaf repoSearch]
  let capped ← (searches.cap 10).mapError .plan
  return .filter rules.allows capped

end SearchPlan.Demo
