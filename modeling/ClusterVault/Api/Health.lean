import ClusterVault.Http.Message

/-!
# The health interface

Tells that a node is up.

## Main definitions

- `HealthApi.answer`: answers a request
-/

namespace ClusterVault.HealthApi

/-- The path of the interface. -/
def path : String := "/healthz"

/-- Answers a request. -/
def answer (r : HttpRequest) : HttpResponse :=
  Id.run <| r.route path
    [("GET", { status := .ok, content := .text "ok" }),
     ("HEAD", { status := .ok, content := .text "" })]

end ClusterVault.HealthApi
