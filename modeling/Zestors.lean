import Zestors.Supervision.Contract
import Zestors.Supervision.OneForOne.Spec
import Zestors.Supervision.OneForOne.Verdict
import Zestors.Supervision.OneForOne.Start
import Zestors.Supervision.OneForOne.Poll
import Zestors.Supervision.OneForOne.Slots
import Zestors.Supervision.OneForOne.Limiter
import Zestors.Supervision.OneForOne.Drain
import Zestors.Supervision.ChannelSpec
import Zestors.Supervision.OneForOne.Progress
import Zestors.Supervision.OneForOne.Deadline
