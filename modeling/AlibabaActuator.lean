import AlibabaActuator.Types
import AlibabaActuator.StartTime
import AlibabaActuator.Tags
import AlibabaActuator.Conditions
import AlibabaActuator.Sort
import AlibabaActuator.Cloud
import AlibabaActuator.Wait
import AlibabaActuator.Resolve
import AlibabaActuator.Instances
import AlibabaActuator.RunInstances
import AlibabaActuator.HonestCloud
import AlibabaActuator.ReplayCloud
import AlibabaActuator.CreatingCloud
