import LayoutAdblock.Core.Evaluate.Apply

namespace LayoutAdblock.Core

variable [Unicode] [Counting]

/-- One evaluation, with the candidate states it leaves behind. The candidates are listed
only where they are asked for, which changes nothing else. -/
def evaluateInner (graph : WindowGraph) (settings : LayoutSettings) (rules : LayoutRules)
    (states : StateMap) (withCandidates : Bool) : Evaluation × StateMap :=
  let mainWindows := inspectMainWindows graph rules
  let confirmed := confirmedMain graph rules
  let candidates := candidateHandles graph rules confirmed
  let candidatePayloads :=
    if withCandidates then inspectCandidates graph settings rules confirmed candidates states
    else []
  let (log, nextStates) := applyOnce graph settings rules confirmed candidates states
  ({ mainWindows := mainWindows
     candidates := candidatePayloads
     actions :=
       { hide := Data.uniqueSorted log.hide
         «show» := Data.uniqueSorted log.show
         close := Data.uniqueSorted log.close
         setPos := log.setPos }
     state :=
       { mainWindowCount := confirmed.length
         candidateMainWindowCount := mainWindows.length
         hiddenWindows := log.hidden
         closedWindows := log.closed
         resizedWindows := log.resized
         popupCloseRequests := log.popupCloseRequests
         popupHideFallbacks := log.popupHideFallbacks
         popupZeroSizeFallbacks := log.popupZeroSizeFallbacks } },
    nextStates)

/-- The evaluation of the dumps and of the shadow mode, which lists its candidates. -/
def evaluateGraphWithStates (graph : WindowGraph) (settings : LayoutSettings)
    (rules : LayoutRules) (states : StateMap) : Evaluation × StateMap :=
  evaluateInner graph settings rules states true

/-- The evaluation of the worker, which throws the candidates away and so does not list
them. -/
def evaluateGraphForApply (graph : WindowGraph) (settings : LayoutSettings)
    (rules : LayoutRules) (states : StateMap) : Evaluation × StateMap :=
  evaluateInner graph settings rules states false

/-- The evaluation of a single tree, where nothing has been seen before. -/
def evaluateGraph (graph : WindowGraph) (settings : LayoutSettings) (rules : LayoutRules) :
    Evaluation :=
  (evaluateGraphWithStates graph settings rules StateMap.empty).1

end LayoutAdblock.Core
